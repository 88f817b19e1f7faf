import Ensemble.Proofs.Organization.Document
import Ensemble.State.Document

/-!
# Saved states read back

A saved state is read back from its own document and from every extension of it, in any layout: with
members of other names, of any value, in any of its records.  What is asked of the state is that its
counts fit into the words that hold them, and that its floating-point numbers and times read back
from their texts.
-/

namespace Ensemble.SavedState

open Json

/-- The organization and the sessions of a state are records. -/
def shape : Json.Shape :=
  .record fieldNames fun name =>
    if name = "organization" then Organization.shape
    else if name = "sessions" then .list Session.shape
    else .plain

/-- A state whose counts fit into their words and whose numbers and times read back. -/
structure Storable (s : SavedState) : Prop where
  version : s.version ≤ maxWord32
  groups : ∀ g ∈ s.organization.groups, g.Storable
  sessions : ∀ session ∈ s.sessions, session.Storable
  savedAt : s.savedAt.ReadsBack

/-- The fields of a state in its document. -/
theorem toJson_eq (s : SavedState) : s.toJson = .record (present [
    ("version", some (.nat s.version)),
    ("organization", some s.organization.toJson),
    ("sessions", some (.array (s.sessions.map Session.toJson))),
    ("saved_at", some s.savedAt.toJson)]) := rfl

/-- A state is recovered from every extension of its document. -/
theorem recovers {s : SavedState} (h : s.Storable) (fresh : Nat → Id) (now : Timestamp) :
    Recovers shape toJson (ofJson? fresh now) s := by
  intro w hw
  rw [toJson_eq] at hw
  obtain ⟨found, hfields, hfound⟩ := fields?_of_extends hw rfl (by decide)
  simp only [List.forall_mem_cons, String.reduceEq, if_false, if_true] at hfound
  obtain ⟨version, organization, sessions, savedAt, -⟩ := hfound
  have hsessions : ∀ session ∈ s.sessions,
      Recovers Session.shape Session.toJson Session.ofJson? session :=
    fun session hsession => Session.recovers (h.sessions session hsession)
  refine bind_eq hfields ?_
  simp only [fieldNames, List.map_cons, List.map_nil]
  refine bind_eq (orDefault?_eq (recovers_nat h.version) _ version) ?_
  refine bind_eq (orDefault?_eq (Organization.recovers h.groups fresh now) _ organization) ?_
  refine bind_eq (orDefault?_eq (recovers_list hsessions) _ sessions) ?_
  refine bind_eq (orDefault?_eq h.savedAt.recovers _ savedAt) ?_
  rfl

/-- The document of a state is well formed. -/
theorem wellFormed_toJson (s : SavedState) : s.toJson.WellFormed := by
  rw [toJson_eq]
  have hsessions := wellFormed_list Session.wellFormed_toJson s.sessions
  exact wellFormed_present (by simp [hsessions, Organization.wellFormed_toJson])

/-- The document of a state is an extension of itself. -/
theorem extends_toJson (s : SavedState) : Extends shape s.toJson s.toJson := by
  rw [toJson_eq]
  have hsessions := extends_list Session.extends_toJson s.sessions
  exact extends_present (by simp [hsessions, Organization.extends_toJson])

/-- A text that denotes an extension of the document of a state is read as that state. -/
theorem read_eq {s : SavedState} (h : s.Storable) {doc : Json} (hdoc : Extends shape s.toJson doc)
    {text : String} (htext : Json.read? text = some doc) (fresh : Nat → Id) (now : Timestamp) :
    read fresh now text = .ok s := by
  rw [read, htext, Option.bind_some, recovers h fresh now doc hdoc]

/-- A saved state is read back from its own document, in the text that is written for it and in
every other layout, and from every extension of its document: from every text that denotes the
extension, and in every layout of it that has only well-formed numbers. -/
theorem read_extended {s : SavedState} (h : s.Storable) (fresh : Nat → Id) (now : Timestamp) :
    read fresh now s.write = .ok s ∧
      (∀ text : String, Laid s.toJson.tokens text.toList → read fresh now text = .ok s) ∧
      ∀ doc, Extends shape s.toJson doc →
        (∀ text, Json.read? text = some doc → read fresh now text = .ok s) ∧
        (doc.WellFormed → ∀ text : String, Laid doc.tokens text.toList →
          read fresh now text = .ok s) := by
  have hlaid {doc : Json} (hdoc : Extends shape s.toJson doc) (hwell : doc.WellFormed)
      (text : String) (htext : Laid doc.tokens text.toList) : read fresh now text = .ok s :=
    read_eq h hdoc (read?_of_laid hwell htext) fresh now
  refine ⟨?_, ?_, fun doc hdoc => ⟨?_, hlaid hdoc⟩⟩
  · exact hlaid s.extends_toJson s.wellFormed_toJson s.write (laid_write s.wellFormed_toJson)
  · exact hlaid s.extends_toJson s.wellFormed_toJson
  · intro text htext
    exact read_eq h hdoc htext fresh now

/-- A session with an entry, and a group whose cycle has an evaluation. -/
def reviewed : SavedState :=
  let start : Timestamp := ⟨1700000000, 250000000⟩
  let cycle : Reflection.Cycle :=
    { Reflection.Cycle.create ⟨2⟩ "Ship it" 3 start with
      currentIteration := 1
      history := [⟨1, .one, "Done", some "opus", start⟩] }
  { version := 1
    organization :=
      { groups :=
          [{ Group.create ⟨1⟩ "team" .orchestratorReflect true start with
             reflection := some cycle }]
        members := [Member.create "lead" ⟨1⟩] }
    sessions :=
      [{ name := "lead"
         model := "opus"
         transcript := [.ofRole .user "Say \"hi\"\n" start]
         queue := ["next"]
         isProcessing := false
         startedAt := none
         activeTools := 0
         usedTools := false
         isResumed := false
         generation := 2
         pendingContent := ""
         pendingReasoning := ""
         turnResponse := "hi"
         createdAt := start
         lastActive := start }]
    savedAt := start }

/-- The state `reviewed` is read back from a document with members that are not its fields, one in
the state and one in its session. -/
theorem reviewed_read_extended :
    let doc : Json := withMember "notes" (.array [.null]) (record [
      ("version", nat 1),
      ("organization", reviewed.organization.toJson),
      ("sessions", .array (reviewed.sessions.map fun session =>
        withMember "colour" (str "red") session.toJson)),
      ("saved_at", reviewed.savedAt.toJson)])
    reviewed.Storable ∧ Extends shape reviewed.toJson doc ∧
      read (fun n => ⟨n⟩) reviewed.savedAt doc.write = .ok reviewed := by
  intro doc
  have htime : reviewed.savedAt.ReadsBack := by decide +kernel
  have hcycle : ∀ g ∈ reviewed.organization.groups, ∀ c ∈ g.reflection, c.Storable := by
    intro g hg c hc
    obtain rfl := List.mem_singleton.mp hg
    obtain rfl := Option.some.inj hc
    refine ⟨by decide, by decide, by decide, by decide, by decide +kernel, by decide +kernel,
      by decide +kernel, fun r hr => ?_, htime, nofun⟩
    obtain rfl := List.mem_singleton.mp hr
    exact ⟨by decide, by decide +kernel, htime⟩
  have hstorable : reviewed.Storable := by
    refine ⟨by decide, fun g hg => ⟨hcycle g hg, ?_⟩, fun session hsession => ?_, htime⟩
    · obtain rfl := List.mem_singleton.mp hg
      exact htime
    · obtain rfl := List.mem_singleton.mp hsession
      refine ⟨fun e he => ?_, nofun, by decide, by decide, htime, htime⟩
      obtain rfl := List.mem_singleton.mp he
      exact htime
  have hdoc : Extends shape reviewed.toJson doc := by
    have hsession (s : Session) :
        Extends Session.shape s.toJson (withMember "colour" (str "red") s.toJson) :=
      Extends.withMember s.extends_toJson (by decide) _
    apply Extends.withMember _ (by decide)
    refine ⟨_, _, rfl, rfl, .keep rfl (.keep ?_ (.keep ?_ (.keep rfl .nil)))⟩
    · exact Organization.extends_toJson _
    · exact ⟨_, _, rfl, rfl, .cons (hsession _) .nil⟩
  have hwell : doc.WellFormed := by
    have hsession (s : Session) : (withMember "colour" (str "red") s.toJson).WellFormed :=
      WellFormed.withMember (wellFormed_str "red") s.wellFormed_toJson _
    have hsessions := wellFormed_list hsession reviewed.sessions
    apply WellFormed.withMember (.array (by simp))
    refine .object ?_
    simp [Organization.wellFormed_toJson, hsessions]
  have hread := (read_extended hstorable (fun n => ⟨n⟩) reviewed.savedAt).2.2 doc hdoc
  exact ⟨hstorable, hdoc, hread.2 hwell doc.write (laid_write hwell)⟩

end Ensemble.SavedState
