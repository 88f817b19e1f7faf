import Ensemble.Coordination.Run
import Ensemble.Proofs.Organization.Joining

/-!
# Sequential chains, turn by turn

A chain has one prompt under way at any time, so a run of it is told by the results of its turns in
order.  As long as these are responses, the members who have answered are a first part of the list,
and the next one has been prompted with the request and the last answer (`hearAll_of_responses`).
From there the chain ends in one of two ways: with the last member, or with the first turn that ends
without a response, after which nothing is asked for any more (`hearAll_of_halt`).

`chain_of_members` puts these together for a run of a group from its start, whose members are in the
order in which they joined as far as `sublist_of_joinsAfter` says.
-/

namespace Ensemble.Coordination

/-! ## Hearing of one turn after another -/

namespace Run

/-- A run after the turns it asked for have ended with these results one after another, and what it
asked for meanwhile. -/
def hearAll (r : Run) : List (Attempt String) → Run × List Demand
  | [] => (r, [])
  | result :: rest =>
    let heard := r.hear (.response 0 result)
    let last := heard.1.hearAll rest
    (last.1, heard.2 ++ last.2)

/-- A run that is over hears nothing. -/
theorem hearAll_of_over {r : Run} {report : Attempt RunReport} (ended : r.stage = .over report)
    (results : List (Attempt String)) : r.hearAll results = (r, []) := by
  induction results with
  | nil => rfl
  | cons result rest ih => simp only [hearAll, hear_of_over ended, ih, List.append_nil]

end Run

namespace Chain

variable {r : Run} {c : Chain}

/-- The requests to prompt members of a chain, each with its input. -/
def demands (sessions inputs : List String) : List Demand :=
  List.zipWith (fun session input => .prompt ⟨0, session, input⟩) sessions inputs

/-- The inputs of the members of a chain: the request for the first, and for each later one the
request with the link before it. -/
def inputs (request : String) (links : List Link) : List String :=
  request :: links.map (chainPrompt request)

/-- The chain after the members under way have answered, as far as there are responses. -/
def answered (c : Chain) (responses : List String) : Chain :=
  { c with
    links := c.links ++ List.zipWith Link.mk c.waiting responses
    waiting := c.waiting.drop responses.length }

/-- What a run does next depends on the chain only, not on the stage before. -/
theorem followChain_moveTo (stage : RunStage) (next : Attempt Chain) :
    (r.moveTo stage).followChain next = r.followChain next := by
  rfl

/-- A chain in which members wait goes on, and prompts the first of them. -/
theorem followChain_of_waiting {session : String} {rest : List String}
    (waiting : c.waiting = session :: rest) :
    r.followChain (.ok c) = (r.moveTo (.chaining c), [.prompt ⟨0, session, c.input⟩]) := by
  simp only [Run.followChain, underWay?, waiting, List.head?_cons, Option.map_some]

/-- A chain in which nobody waits is done. -/
theorem followChain_of_done (done : c.waiting = []) :
    r.followChain (.ok c) = (r.moveTo (.over (.ok (.sequential c.links))), []) := by
  simp only [Run.followChain, underWay?, done, List.head?_nil, Option.map_none]

/-- A response goes on the chain, and the next member is prompted with it. -/
theorem hear_response {session : String} {rest : List String}
    (waiting : c.waiting = session :: rest) (response : String) :
    (r.moveTo (.chaining c)).hear (.response 0 (.ok response)) =
      r.followChain (.ok (c.answered [response])) := by
  have received : c.receive (.ok response) = .ok (c.answered [response]) := by
    simp [receive, answered, waiting]
  show (r.moveTo (.chaining c)).followChain (c.receive (.ok response)) = _
  rw [received, followChain_moveTo]

theorem input_answered {session : String} {rest : List String}
    (waiting : c.waiting = session :: rest) (response : String) :
    (c.answered [response]).input = chainPrompt c.request ⟨session, response⟩ := by
  simp [answered, input, waiting]

/-- Responses one after another are responses to the members in order. -/
theorem answered_cons (c : Chain) (response : String) (rest : List String) :
    (c.answered [response]).answered rest = c.answered (response :: rest) := by
  obtain ⟨request, links, waiting⟩ := c
  cases waiting with
  | nil => simp [answered]
  | cons session waiting => simp [answered]

/-- While members answer, each next one is prompted with the answer of the one before, and with the
last answer the chain is done. -/
theorem hearAll_of_responses (responses : List String) (begun : c.waiting ≠ [])
    (fits : responses.length ≤ c.waiting.length) :
    (r.moveTo (.chaining c)).hearAll (responses.map .ok) =
      ((r.followChain (.ok (c.answered responses))).1,
        demands c.waiting.tail
          ((List.zipWith Link.mk c.waiting responses).map (chainPrompt c.request))) := by
  obtain ⟨session, others, waiting⟩ := List.exists_cons_of_ne_nil begun
  induction responses generalizing c session others with
  | nil =>
    rw [show c.answered [] = c by simp [answered], followChain_of_waiting waiting]
    simp [Run.hearAll, demands]
  | cons response rest ih =>
    have still : (c.answered [response]).waiting = others := by
      simp [answered, waiting]
    rw [waiting, List.length_cons, List.length_cons] at fits
    simp only [List.map_cons, Run.hearAll, hear_response waiting]
    -- the response was the last one, or it is put to the member who waits next
    cases others with
    | nil =>
      obtain rfl : rest = [] := List.length_eq_zero_iff.1 (by simpa using fits)
      rw [followChain_of_done still, waiting]
      rfl
    | cons next others =>
      have heard := ih (by simp [still]) (by simpa [still] using fits) next others still
      rw [answered_cons, still] at heard
      rw [followChain_of_waiting still, heard, input_answered waiting, waiting]
      rfl

/-- The first turn that ends without a response halts the chain. -/
theorem hearAll_of_halt {session : String} {rest : List String}
    (waiting : c.waiting = session :: rest) (failure : Failure) (later : List (Attempt String)) :
    (r.moveTo (.chaining c)).hearAll (.error failure :: later) =
      (r.moveTo (.over (.error (.chainHalted session failure))), []) := by
  have halted : (r.moveTo (.chaining c)).hear (.response 0 (.error failure)) =
      (r.moveTo (.over (.error (.chainHalted session failure))), []) := by
    simp only [Run.hear, Run.moveTo, receive, waiting]
    rfl
  simp only [Run.hearAll, halted]
  rw [Run.hearAll_of_over rfl]
  rfl

end Chain

/-! ## A chain from its start -/

namespace Run

variable {o : Organization} {g : Group} {members : List Member} {group : Id}

/-- A run does not get into a group without members. -/
theorem touch_of_refused {failure : Failure} (refused : o.gather group = .error failure)
    (request : String) (settings : ReflectionSettings) (fresh : Id) (now : Timestamp) :
    (start group request settings).touch o fresh now =
      ⟨(start group request settings).moveTo (.over (.error failure)), [], o⟩ := by
  simp only [touch, start, refused]

/-- A run of a sequential group starts a chain of its members. -/
theorem touch_of_sequential (entered : o.gather group = .ok (g, members))
    (mode : g.mode = .sequential) (request : String) (settings : ReflectionSettings) (fresh : Id)
    (now : Timestamp) :
    (start group request settings).touch o fresh now =
      let r := start group request settings
      let opened := r.followChain (.ok (Chain.start request (members.map (·.session))))
      ⟨opened.1, opened.2, o⟩ := by
  simp only [touch, start, entered, enter, mode]

end Run

/-- A run of a sequential group takes its request through the members in order.

A group without members is refused, and nobody is prompted.  Otherwise, after any number of members
have answered, the run has asked for one prompt to each of these and to the next, in order: the
request itself to the first, and to each later one the request with the answer of the one before.
When all have answered, the run reports their answers.  When the turn of the next member ends
without a response, whatever may follow, the run reports that member and what went wrong, and asks
for nothing more.

A member comes after those that were in the group when it joined, from no other group. -/
theorem chain_of_members {o : Organization} {group : Id} {g : Group}
    (found : o.group? group = some g) (mode : g.mode = .sequential) (request : String)
    (settings : ReflectionSettings) (fresh : Id) (now : Timestamp) :
    let sessions := (o.membersOf group).map (·.session)
    let opened := (Run.start group request settings).touch o fresh now
    (sessions = [] → opened.demands = [] ∧
      opened.run.report? = some (.error (.invalid (.emptyGroup g.name)))) ∧
    (sessions ≠ [] → ∀ responses : List String, responses.length ≤ sessions.length →
      let links := List.zipWith Link.mk sessions responses
      let heard := opened.run.hearAll (responses.map .ok)
      opened.demands ++ heard.2 = Chain.demands sessions (Chain.inputs request links) ∧
      (responses.length = sessions.length →
        heard.1.report? = some (.ok (.sequential links))) ∧
      ∀ session, sessions[responses.length]? = some session →
        heard.1.report? = none ∧
        ∀ failure later, let halted := heard.1.hearAll (.error failure :: later)
          halted.2 = [] ∧
            halted.1.report? = some (.error (.chainHalted session failure))) ∧
    ∀ (before : Organization) (ops : List Organization.Operation) (first second : String),
      o = before.after ops → before.JoinsAfter ops group first second →
        [first, second].Sublist sessions := by
  intro sessions opened
  have gathered : o.gather group = if (o.membersOf group).isEmpty
      then .error (.invalid (.emptyGroup g.name)) else .ok (g, o.membersOf group) := by
    simp only [Organization.gather, found]
  refine ⟨?_, ?_, ?_⟩
  · intro nobody
    have refused : o.gather group = .error (.invalid (.emptyGroup g.name)) := by
      rw [gathered, List.map_eq_nil_iff.1 nobody]
      rfl
    simp only [opened, Run.touch_of_refused refused]
    exact ⟨trivial, rfl⟩
  · intro peopled responses fits links heard
    obtain ⟨first, others, split⟩ := List.exists_cons_of_ne_nil peopled
    -- the run opens with the first member prompted; from there on it is told by its turns
    let r := Run.start group request settings
    let chain := Chain.start request sessions
    have entered : o.gather group = .ok (g, o.membersOf group) := by
      rw [gathered, if_neg]
      simpa [sessions] using peopled
    have start : opened =
        ⟨r.moveTo (.chaining chain), [.prompt ⟨0, first, request⟩], o⟩ := by
      simp only [opened, Run.touch_of_sequential entered mode]
      rw [show Chain.start request ((o.membersOf group).map (·.session)) = chain from rfl,
        Chain.followChain_of_waiting split]
      rfl
    have heard_eq : heard = ((r.followChain (.ok (chain.answered responses))).1,
        Chain.demands others (links.map (chainPrompt request))) := by
      have answers := Chain.hearAll_of_responses (r := r) (c := chain) responses peopled fits
      rw [show chain.waiting.tail = others from congrArg List.tail split] at answers
      simp only [heard, start]
      exact answers
    refine ⟨?_, fun all => ?_, fun session next => ?_⟩
    · rw [heard_eq, start, split]
      rfl
    · have done : (chain.answered responses).waiting = [] := by
        simp [Chain.answered, chain, Chain.start, all]
      rw [heard_eq, Chain.followChain_of_done done]
      rfl
    · have waiting : (chain.answered responses).waiting =
          session :: sessions.drop (responses.length + 1) := by
        obtain ⟨short, rfl⟩ := List.getElem?_eq_some_iff.1 next
        exact List.drop_eq_getElem_cons short
      rw [heard_eq, Chain.followChain_of_waiting waiting]
      refine ⟨rfl, fun failure later => ?_⟩
      simp only [Chain.hearAll_of_halt waiting failure later]
      exact ⟨trivial, rfl⟩
  · rintro before ops first second rfl joins
    exact Organization.sublist_of_joinsAfter joins

/-- The second of three members fails, and the third is never prompted, who joined last. -/
theorem second_member_halts_chain :
    let now : Timestamp := ⟨0, 0⟩
    let team : Id := ⟨7⟩
    let pair := ["a", "b"].foldl (fun o session => (o.addMember team session .worker).2)
      (Organization.empty.createGroup team "team" .sequential false now)
    let o := pair.after [.addMember team "c" .worker]
    let opened := (Run.start team "Write" .default).touch o ⟨8⟩ now
    let heard := opened.run.hearAll [.ok "draft"]
    let halted := heard.1.hearAll [.error (.turnFailed "b" "timeout"), .ok "late"]
    (∃ g, o.group? team = some g ∧ g.mode = .sequential) ∧
      opened.demands ++ heard.2 = [.prompt ⟨0, "a", "Write"⟩,
        .prompt ⟨0, "b", "Write\n\nOutput from the previous step (a):\ndraft"⟩] ∧
      halted.2 = [] ∧
      halted.1.report? = some (.error (.chainHalted "b" (.turnFailed "b" "timeout"))) ∧
      pair.JoinsAfter [.addMember team "c" .worker] team "b" "c" ∧
      ["b", "c"].Sublist ((o.membersOf team).map (·.session)) := by
  intro now team pair o opened heard halted
  have found : o.group? team = some (.create team "team" .sequential true now) := by decide
  have joins : pair.JoinsAfter [.addMember team "c" .worker] team "b" "c" := by
    refine ⟨fun k => ?_, by decide, by decide, fun k _ => ?_⟩
    · match k with
      | 0 => decide
      | k + 1 =>
        rw [List.take_succ_cons, List.take_nil]
        decide
    · match k with
      | 0 => exact .inr (by decide)
      | k + 1 =>
        rw [List.take_succ_cons, List.take_nil]
        exact .inl (by decide)
  obtain ⟨-, runs, ordered⟩ := chain_of_members found rfl "Write" .default ⟨8⟩ now
  obtain ⟨asked, -, halts⟩ := runs (by decide) ["draft"] (by decide)
  obtain ⟨-, halts⟩ := halts "b" (by decide)
  obtain ⟨silent, reported⟩ := halts (.turnFailed "b" "timeout") [.ok "late"]
  exact ⟨⟨_, found, rfl⟩, asked.trans (by decide), silent, reported, joins,
    ordered pair _ "b" "c" rfl joins⟩

/-- A group without members is refused rather than run in no steps. -/
theorem empty_group_refused :
    let now : Timestamp := ⟨0, 0⟩
    let team : Id := ⟨7⟩
    let o := Organization.empty.createGroup team "team" .sequential false now
    let opened := (Run.start team "Write" .default).touch o ⟨8⟩ now
    (o.membersOf team).map (·.session) = [] ∧
      opened.run.report? = some (.error (.invalid (.emptyGroup "team"))) ∧
      opened.run.report? ≠ some (.ok (.sequential [])) := by
  intro now team o opened
  refine ⟨rfl, rfl, fun completed => ?_⟩
  have refused : opened.run.report? = some (.error (.invalid (.emptyGroup "team"))) := rfl
  rw [refused] at completed
  cases completed

end Ensemble.Coordination
