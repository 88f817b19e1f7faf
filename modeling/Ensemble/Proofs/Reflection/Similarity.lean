import Ensemble.Proofs.Coordination.Lane
import Ensemble.Proofs.Number.Monotone
import Ensemble.Proofs.Text.Word
import Ensemble.Reflection.Similarity
import Ensemble.Settings
import Mathlib.Data.Finset.Card
import Mathlib.Data.Finset.Dedup
import Mathlib.Data.Finset.Lattice.Lemmas

/-!
# Similarity by sets of words

Two texts are compared by the numbers of words in the intersection and in the union of their sets of
words.  The similarity is the quotient of these numbers, rounded (`similarity_eq_nearest`); the
quotient itself is between zero and one, and it is one exactly if the sets are equal.

Equal texts are reported as a stall without being compared.  That is a short cut and no exception:
their similarity is one, which is above every threshold below one.  So the check sees nothing of two
texts but their sets of words (`check_sees_words`).  Rounding keeps the order, so that it adds no
stall, and it loses one only to a similarity that is rounded to the threshold (`isStall_nearest`).
-/

namespace Ensemble.Reflection

open Binary64 (nearest)

/-! ## Sets of words -/

/-- The set of the words of a text. -/
def wordsOf (text : String) : Finset (List Char) :=
  (Text.words text.toList).toFinset

/-- The words of a text, as a set, are those of its list of words. -/
theorem toFinset_wordSet (text : String) : (wordSet text).toFinset = wordsOf text := by
  ext word
  simp [wordSet, wordsOf]

/-- No word is listed twice. -/
theorem nodup_wordSet (text : String) : (wordSet text).Nodup :=
  Coordination.nodup_eraseDups _

/-- A text has as many words in the list as in the set. -/
theorem length_wordSet (text : String) : (wordSet text).length = (wordsOf text).card := by
  rw [← toFinset_wordSet, List.toFinset_card_of_nodup (nodup_wordSet text)]

/-- Common words are counted as in the intersection of the sets. -/
theorem commonWords_eq_card (a b : String) :
    commonWords a b = (wordsOf a ∩ wordsOf b).card := by
  rw [commonWords, ← List.toFinset_card_of_nodup ((nodup_wordSet a).filter _)]
  congr 1
  ext word
  simp [wordSet, wordsOf]

/-- Distinct words are counted as in the union of the sets. -/
theorem distinctWords_eq_card (a b : String) :
    distinctWords a b = (wordsOf a ∪ wordsOf b).card := by
  rw [distinctWords, length_wordSet, length_wordSet, commonWords_eq_card, Finset.card_union]

/-- Texts that blanks keep apart have the words of either.  So it does not matter how often words
are repeated, in which order they stand, and which blanks are between them. -/
theorem wordsOf_append {blanks : String} (some : blanks ≠ "")
    (blank : ∀ c ∈ blanks.toList, Text.isBlank c = true) (a b : String) :
    wordsOf (a ++ blanks ++ b) = wordsOf a ∪ wordsOf b := by
  cases chars : blanks.toList with
  | nil => exact absurd (String.toList_eq_nil_iff.1 chars) some
  | cons c rest =>
    rw [chars, List.forall_mem_cons] at blank
    have words : Text.words (a ++ blanks ++ b).toList =
        Text.words a.toList ++ Text.words b.toList := by
      rw [String.toList_append, String.toList_append, chars, List.append_assoc, List.cons_append,
        Text.words_append_cons blank.1, Text.words_append_left blank.2]
    rw [wordsOf, words, List.toFinset_append, wordsOf, wordsOf]

/-! ## The exact similarity -/

/-- The quotient of the number of common words by that of all words; one if there are no words. -/
def exactSimilarity (a b : String) : ℚ :=
  if wordsOf a ∪ wordsOf b = ∅ then 1
  else (wordsOf a ∩ wordsOf b).card / (wordsOf a ∪ wordsOf b).card

section Exact

variable (a b : String)

/-- It does not matter which text comes first. -/
theorem exactSimilarity_comm : exactSimilarity b a = exactSimilarity a b := by
  rw [exactSimilarity, exactSimilarity, Finset.inter_comm, Finset.union_comm]

/-- Common words are not more than all words. -/
theorem common_le_all : (wordsOf a ∩ wordsOf b).card ≤ (wordsOf a ∪ wordsOf b).card :=
  Finset.card_le_card Finset.inter_subset_union

/-- No similarity is negative. -/
theorem exactSimilarity_nonneg : 0 ≤ exactSimilarity a b := by
  rw [exactSimilarity]
  split
  next => exact zero_le_one
  next => exact div_nonneg (Nat.cast_nonneg _) (Nat.cast_nonneg _)

/-- No similarity is above one. -/
theorem exactSimilarity_le_one : exactSimilarity a b ≤ 1 := by
  rw [exactSimilarity]
  split
  next => exact le_refl 1
  next => exact div_le_one_of_le₀ (Nat.cast_le.2 (common_le_all a b)) (Nat.cast_nonneg _)

/-- Texts are wholly similar exactly if they have the same words. -/
theorem exactSimilarity_eq_one_iff : exactSimilarity a b = 1 ↔ wordsOf a = wordsOf b := by
  rw [exactSimilarity]
  split
  next none =>
    obtain ⟨left, right⟩ := Finset.union_eq_empty.1 none
    exact iff_of_true rfl (left.trans right.symm)
  next some =>
    have pos : ((wordsOf a ∪ wordsOf b).card : ℚ) ≠ 0 :=
      Nat.cast_ne_zero.2 (Finset.card_ne_zero.2 (Finset.nonempty_iff_ne_empty.2 some))
    rw [div_eq_one_iff_eq pos, Nat.cast_inj]
    constructor
    · intro same
      -- the intersection is as large as the union only if they are the same, and so are the sets
      exact inf_eq_sup.1
        (Finset.eq_of_subset_of_card_le Finset.inter_subset_union (Nat.le_of_eq same.symm))
    · intro same
      rw [same, Finset.inter_self, Finset.union_self]

end Exact

/-! ## The rounded similarity -/

section Rounded

variable (a b : String)

/-- The similarity of two texts is the number nearest to the exact one. -/
theorem similarity_eq_nearest : similarity a b = nearest (exactSimilarity a b) := by
  have all := distinctWords_eq_card a b
  by_cases none : wordsOf a ∪ wordsOf b = ∅
  · rw [none, Finset.card_empty] at all
    rw [similarity, exactSimilarity, if_pos none, Binary64.nearest_one, all, beq_self_eq_true,
      if_pos rfl]
  · have pos : 0 < (wordsOf a ∪ wordsOf b).card :=
      Finset.card_pos.2 (Finset.nonempty_iff_ne_empty.2 none)
    rw [similarity, exactSimilarity, if_neg none, Binary64.nearest_div _ pos, all,
      commonWords_eq_card, if_neg (by simpa using none)]

/-- For texts with fewer than `2^53` words, the rounded similarity is one only if the exact one
is. -/
theorem nearest_exactSimilarity_eq_one_iff (few : (wordsOf a ∪ wordsOf b).card < 2 ^ 53) :
    nearest (exactSimilarity a b) = .one ↔ exactSimilarity a b = 1 := by
  by_cases none : wordsOf a ∪ wordsOf b = ∅
  · rw [exactSimilarity, if_pos none, Binary64.nearest_one]
    exact iff_of_true rfl rfl
  · have pos : 0 < (wordsOf a ∪ wordsOf b).card :=
      Finset.card_pos.2 (Finset.nonempty_iff_ne_empty.2 none)
    rw [exactSimilarity, if_neg none, Binary64.nearest_div _ pos,
      Binary64.ofRatio_eq_one_iff pos (common_le_all a b) few,
      div_eq_one_iff_eq (Nat.cast_ne_zero.2 (Nat.ne_of_gt pos)), Nat.cast_inj]

end Rounded

/-! ## The check -/

/-- The check of a response against the one before it, with the exact similarity in place of the
rounded one. -/
def exactCheck (previous current : String) (threshold : ℚ) : Bool × ℚ :=
  if previous == current then (true, 1)
  else (decide (threshold < exactSimilarity previous current), exactSimilarity previous current)

/-- Below one, the short cut answers what the comparison would. -/
theorem checkStall_eq {threshold : Binary64} (below : threshold.lt .one = true) (a b : String) :
    checkStall (some a) b threshold =
      ⟨threshold.lt (nearest (exactSimilarity a b)), nearest (exactSimilarity a b)⟩ := by
  rw [← similarity_eq_nearest, checkStall.eq_2]
  split
  next same =>
    have wholly : similarity a b = .one := by
      rw [eq_of_beq same, similarity_eq_nearest, (exactSimilarity_eq_one_iff b b).2 rfl,
        Binary64.nearest_one]
    rw [wholly, below]
  next => rfl

/-- Below a threshold of one, the exact check compares with the exact similarity, equal texts
included. -/
theorem exactCheck_eq {threshold : ℚ} (below : threshold < 1) (a b : String) :
    exactCheck a b threshold =
      (decide (threshold < exactSimilarity a b), exactSimilarity a b) := by
  rw [exactCheck]
  split
  next same =>
    have wholly : exactSimilarity a b = 1 := by
      rw [eq_of_beq same, (exactSimilarity_eq_one_iff b b).2 rfl]
    rw [wholly, decide_eq_true below]
  next => rfl

/-- Rounding adds no stall, and loses one only to a similarity that is rounded to the threshold. -/
theorem isStall_nearest {limit : ℚ} (below : (nearest limit).lt .one = true) (a b : String) :
    ((checkStall (some a) b (nearest limit)).isStall = true → (exactCheck a b limit).1 = true) ∧
      ((exactCheck a b limit).1 = true →
        (checkStall (some a) b (nearest limit)).isStall = true ∨
          (nearest limit).rank? = (nearest (exactSimilarity a b)).rank?) := by
  have below' : limit < 1 := by
    rw [← Binary64.nearest_one] at below
    exact Binary64.lt_of_nearest_lt below
  simp only [checkStall_eq below, exactCheck_eq below', decide_eq_true_eq]
  exact ⟨Binary64.lt_of_nearest_lt, Binary64.nearest_lt_or_rank?_eq⟩

/-- A comparison of texts that sees nothing but their sets of words, and both of them alike. -/
structure SeesWords {α : Type} (compare : String → String → α) : Prop where
  symm : ∀ a b, compare b a = compare a b
  congr : ∀ a b a' b', wordsOf a' = wordsOf a → wordsOf b' = wordsOf b →
    compare a' b' = compare a b

/-- What is made of the exact similarity sees nothing but the words. -/
theorem seesWords_of_exactSimilarity {α : Type} {compare : String → String → α} (f : ℚ → α)
    (h : ∀ a b, compare a b = f (exactSimilarity a b)) : SeesWords compare where
  symm := fun a b => by rw [h, h, exactSimilarity_comm]
  congr := fun a b a' b' left right => by
    rw [h, h, exactSimilarity, left, right, exactSimilarity]

/--
With a threshold below one, the check of a response against the one before it sees nothing but the
sets of words of the two, and both of them alike, and equal texts are no exception: the verdict is
whether the similarity is above the threshold.  The similarity is the number nearest to the exact
one, a share that is one exactly if the two have the same words.  All this holds of the check with
the exact similarity as well, and if its limit is rounded to the threshold, the two verdicts differ
only where the limit is exceeded by a similarity that is rounded to the threshold too.  The words of
texts that are put together with blanks between them are those of either, so that their order,
repetitions and the blanks do not matter.
-/
theorem check_sees_words {threshold : Binary64} (below : threshold.lt .one = true) {limit : ℚ}
    (below' : limit < 1) :
    SeesWords (fun previous current => checkStall (some previous) current threshold) ∧
      SeesWords (fun previous current => exactCheck previous current limit) ∧
      (∀ a blanks b : String, blanks ≠ "" → (∀ c ∈ blanks.toList, Text.isBlank c = true) →
        wordsOf (a ++ blanks ++ b) = wordsOf a ∪ wordsOf b) ∧
      ∀ a b : String,
        checkStall (some a) b threshold =
            ⟨threshold.lt (nearest (exactSimilarity a b)), nearest (exactSimilarity a b)⟩ ∧
          exactCheck a b limit =
            (decide (limit < exactSimilarity a b), exactSimilarity a b) ∧
          (0 ≤ exactSimilarity a b ∧ exactSimilarity a b ≤ 1) ∧
          (exactSimilarity a b = 1 ↔ wordsOf a = wordsOf b) ∧
          (Binary64.zero.le (nearest (exactSimilarity a b)) = true ∧
            (nearest (exactSimilarity a b)).le .one = true) ∧
          ((wordsOf a ∪ wordsOf b).card < 2 ^ 53 →
            (nearest (exactSimilarity a b) = .one ↔ wordsOf a = wordsOf b)) ∧
          (threshold = nearest limit →
            ((checkStall (some a) b threshold).isStall = true → (exactCheck a b limit).1 = true) ∧
              ((exactCheck a b limit).1 = true →
                (checkStall (some a) b threshold).isStall = true ∨
                  threshold.rank? = (nearest (exactSimilarity a b)).rank?)) := by
  refine ⟨?_, ?_, fun a _ b some blank => wordsOf_append some blank a b,
    fun a b => ⟨checkStall_eq below a b, exactCheck_eq below' a b, ?_⟩⟩
  · exact seesWords_of_exactSimilarity (fun q => ⟨threshold.lt (nearest q), nearest q⟩)
      (checkStall_eq below)
  · exact seesWords_of_exactSimilarity (fun q => (decide (limit < q), q)) (exactCheck_eq below')
  · have nonneg := exactSimilarity_nonneg a b
    have le_one := exactSimilarity_le_one a b
    have wholly := exactSimilarity_eq_one_iff a b
    refine ⟨⟨nonneg, le_one⟩, wholly, Binary64.nearest_share nonneg le_one, fun few => ?_, ?_⟩
    · rw [nearest_exactSimilarity_eq_one_iff a b few, wholly]
    · intro rounded
      rw [rounded] at below ⊢
      exact isStall_nearest below a b

/-- Words that are repeated, in another order and on other lines are a stall. -/
theorem reordered_words_stall :
    let threshold := ReflectionSettings.defaultStallSimilarity
    let previous := "fix the bug now"
    let current := "now  fix\tthe bug\nthe bug"
    threshold.lt .one = true ∧ threshold = nearest (9 / 10) ∧
      previous ≠ current ∧ wordsOf previous = wordsOf current ∧
      checkStall (some previous) current threshold = ⟨true, .one⟩ ∧
      exactCheck previous current (9 / 10) = (true, 1) := by
  intro threshold previous current
  have below : threshold.lt .one = true := by decide +kernel
  have below' : (9 / 10 : ℚ) < 1 := by decide +kernel
  have words : wordsOf previous = wordsOf current := by decide +kernel
  obtain ⟨rounded, exact', -⟩ := check_sees_words below below'
  refine ⟨below, by decide +kernel, by decide, words, ?_, ?_⟩
  · exact rounded.congr current current previous current words rfl
  · exact exact'.congr current current previous current words rfl

end Ensemble.Reflection
