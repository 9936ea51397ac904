import Formwork.Proofs.Steps.Driving
import Formwork.Proofs.Steps.Merging
import Formwork.Proofs.Steps.Token

/-! # Taking up a form again

A form in steps may be left at any point with a signed token of where it stands, and taken up
again from that token, perhaps elsewhere. Whatever a host does from there on, it gets the answers
that it would have got without the break.
-/

namespace Formwork

/-- What a host does with steps: hand in data, or go back. -/
inductive Move where
  | advance (data : Entries Value)
  | retreat

namespace Move

def action : Move → Action
  | .advance data => .advance data
  | .retreat => .retreat

/-- Where a move gets a sequence. -/
def next? : Move → StepSequence → Option StepSequence
  | .advance data, sequence => sequence.advance? data
  | .retreat, sequence => sequence.retreat?

/-- Where a sequence is after a move; one that cannot move stays. -/
def after (move : Move) (sequence : StepSequence) : StepSequence :=
  (move.next? sequence).getD sequence

end Move

namespace StepSequence

variable {schema : Schema} {sequence next : StepSequence}

theorem restore_snapshot (within : sequence.index < sequence.count) :
    restore sequence.schema sequence.snapshot = sequence := by
  have index : (min (sequence.index : Int) (sequence.schema.steps.length - 1 : Int)).toNat =
      sequence.index := by
    rw [count] at within
    omega
  simp only [restore, snapshot, index]

theorem next?_eq_none_iff {move : Move} : move.next? sequence = none ↔
    sequence.completed = true := by
  cases move with
  | advance data => exact advance?_eq_none_iff
  | retreat => exact retreat?_eq_none_iff

end StepSequence

namespace Workspace

variable {w v start : Workspace} {steps first : StepRun} {schema : Schema}
  {sequence next : StepSequence} {receiver : Option Receiver} {on back : Nat}
  {receive : Entries Value → Effect Unit}

/-- The steps under way stand as said. -/
def StandsAt (w : Workspace) (sequence : StepSequence) : Prop :=
  ∃ steps, w.run = some steps ∧ steps.sequence = sequence

/-- Whether a function of the host fails depends on the data it takes, and on where the steps
    stand. -/
def Predictable (receive : Entries Value → Effect Unit) : Prop :=
  ∀ data sequence w v, w.StandsAt sequence → v.StandsAt sequence →
    (receive data w).1 = (receive data v).1

theorem predictable_handTo (predictable : ∀ own, receiver = some own → Predictable own.receive) :
    Predictable (handTo receiver) := by
  cases receiver with
  | none => exact fun _ _ _ _ _ _ => rfl
  | some own =>
      intro data sequence w v here there
      exact predictable own rfl data sequence (w.addEvent (.submitted data))
        (v.addEvent (.submitted data)) here there

theorem predictable_receiver? (submission : Submission) :
    ∀ own, submission.receiver? = some own → Predictable own.receive := by
  intro own is
  cases submission with
  | ignored => cases is
  | accepted | failing =>
      cases is
      exact fun _ _ _ _ _ _ => rfl

/-! ## One move -/

/-- Make a move, where some function takes the data of the completed form. -/
def make (receive : Entries Value → Effect Unit) : Move → Effect Result
  | .advance data => do return .flag (← advanceTo receive data)
  | .retreat => do retreat; return .done

theorem act_eq_make (running : w.run = some steps) (move : Move) :
    act move.action w = make (handTo steps.submission.receiver?) move w := by
  cases move with
  | retreat => rfl
  | advance data =>
      show (advance data >>= fun completed => pure (Result.flag completed)) w = _
      rw [make]
      rcases ran : advance data w with ⟨fault | completed, after⟩
      · rw [Effect.bind_of_error ran, Effect.bind_of_error (advance_eq_handTo running data ▸ ran)]
      · rw [Effect.bind_of_ok ran, Effect.bind_of_ok (advance_eq_handTo running data ▸ ran)]

theorem make_none (running : w.run = some steps) {move : Move}
    (stays : move.next? steps.sequence = none) :
    make receive move w = (.error .completed, w) := by
  have completed := StepSequence.next?_eq_none_iff.mp stays
  cases move with
  | advance data => exact Effect.bind_of_error (advanceTo_completed running completed data) _
  | retreat => exact Effect.bind_of_error (retreat_completed running completed) _

/-- Whatever a move answers, and whatever the function of the host does, the steps get where the
    move gets them, and the host is told of it if that completes the form. -/
theorem make_moves (receiver : Option Receiver) (running : w.run = some steps) (move : Move) :
    (make (handTo receiver) move w).2.run =
        some { steps with sequence := move.after steps.sequence } ∧
      (make (handTo receiver) move w).2.submissions =
        w.submissions ++ told receiver steps.sequence (move.after steps.sequence) := by
  cases moved : move.next? steps.sequence with
  | none =>
      have completed := StepSequence.next?_eq_none_iff.mp moved
      rw [make_none running moved, Move.after, moved, Option.getD_none,
        told_of_completed completed, List.append_nil]
      exact ⟨running, rfl⟩
  | some next =>
      rw [Move.after, moved, Option.getD_some]
      cases move with
      | retreat =>
          obtain ⟨unfinished, same⟩ := StepSequence.retreat?_cases moved
          have silent : told receiver steps.sequence next = [] := by
            rw [same]
            exact told_of_unfinished unfinished _
          rw [make, Effect.bind_of_ok (retreat_some running moved), silent, List.append_nil]
          exact ⟨rfl, rfl⟩
      | advance data =>
          rw [make, Effect.snd_bind_pure]
          have unfinished := (StepSequence.advance?_cases moved).1
          cases ended : next.completed with
          | false =>
              rw [advanceTo_unfinished running moved ended, told_of_unfinished ended,
                List.append_nil]
              exact ⟨rfl, rfl⟩
          | true =>
              obtain ⟨-, still, submitted⟩ := advanceTo_last receiver running moved ended
              refine ⟨still, ?_⟩
              rw [submitted, told, unfinished, ended]
              cases receiver <;> rfl

theorem make_alike (predictable : Predictable (handTo receiver)) {other : StepRun}
    (here : w.run = some steps) (there : v.run = some other)
    (same : other.sequence = steps.sequence) (move : Move) :
    (make (handTo receiver) move v).1 = (make (handTo receiver) move w).1 := by
  cases moved : move.next? steps.sequence with
  | none =>
      rw [make_none here moved, make_none there (same ▸ moved)]
  | some next =>
      cases move with
      | retreat =>
          rw [make, Effect.bind_of_ok (retreat_some here moved),
            Effect.bind_of_ok (retreat_some there (same ▸ moved))]
          rfl
      | advance data =>
          rw [make, Effect.fst_bind_pure, Effect.fst_bind_pure, advanceTo_some here moved,
            advanceTo_some there (same ▸ moved), Effect.fst_bind_pure, Effect.fst_bind_pure]
          cases next.completed with
          | false => rfl
          | true =>
              have alike := predictable next.data next (w.moveTo steps next) (v.moveTo other next)
                ⟨_, rfl, rfl⟩ ⟨_, rfl, rfl⟩
              rw [if_pos rfl, alike]

/-! ## Runs -/

/-- What a move is answered, and the state after it. -/
abbrev Answer := Except Fault Result × Option StepState

/-- Make moves one after the other, whether they fail or not. -/
def follow (make : Move → Effect Result) : List Move → Workspace → List Answer × Workspace
  | [], w => ([], w)
  | move :: moves, w =>
      let made := make move w
      let rest := follow make moves made.2
      ((made.1, made.2.run.map (·.sequence.snapshot)) :: rest.1, rest.2)

/-- What moves have the host told of. -/
def handed (receiver : Option Receiver) : List Move → StepSequence → List (Entries Value)
  | [], _ => []
  | move :: moves, sequence =>
      told receiver sequence (move.after sequence) ++ handed receiver moves (move.after sequence)

theorem after_of_completed (completed : sequence.completed = true) (move : Move) :
    move.after sequence = sequence := by
  rw [Move.after, StepSequence.next?_eq_none_iff.mpr completed, Option.getD_none]

theorem handed_of_completed (completed : sequence.completed = true) (moves : List Move) :
    handed receiver moves sequence = [] := by
  induction moves with
  | nil => rfl
  | cons move moves ih =>
      rw [handed, after_of_completed completed, ih, told_of_completed completed, List.append_nil]

theorem length_handed (moves : List Move) (sequence : StepSequence) :
    (handed receiver moves sequence).length ≤ 1 := by
  induction moves generalizing sequence with
  | nil => exact Nat.zero_le 1
  | cons move moves ih =>
      rw [handed]
      -- this move told the host nothing, or it completed the form and no later one will
      cases ended : (move.after sequence).completed with
      | false =>
          rw [told_of_unfinished ended, List.nil_append]
          exact ih _
      | true =>
          rw [handed_of_completed ended, List.append_nil, told]
          split
          · exact Nat.le_refl 1
          · exact Nat.zero_le 1

theorem follow_submissions (running : w.run = some steps) (moves : List Move) :
    (follow (make (handTo receiver)) moves w).2.submissions =
      w.submissions ++ handed receiver moves steps.sequence := by
  induction moves generalizing w steps with
  | nil => exact (List.append_nil _).symm
  | cons move moves ih =>
      obtain ⟨run, submitted⟩ := make_moves receiver running move
      rw [follow, handed, ← List.append_assoc, ← submitted]
      exact ih run

theorem follow_alike (predictable : Predictable (handTo receiver)) {other : StepRun}
    (here : w.run = some steps) (there : v.run = some other)
    (same : other.sequence = steps.sequence) (moves : List Move) :
    (follow (make (handTo receiver)) moves v).1 =
      (follow (make (handTo receiver)) moves w).1 := by
  induction moves generalizing w v steps other with
  | nil => rfl
  | cons move moves ih =>
      have answered := make_alike predictable here there same move
      have run := (make_moves receiver here move).1
      have run' := (make_moves receiver there move).1
      have rest := ih run run' (by rw [same])
      simp only [follow]
      rw [answered, rest, run, run', Option.map_some, Option.map_some, same]

theorem follow_act (running : w.run = some steps) (moves : List Move) :
    follow (act ·.action) moves w =
      follow (make (handTo steps.submission.receiver?)) moves w := by
  induction moves generalizing w steps with
  | nil => rfl
  | cons move moves ih =>
      have run := (make_moves steps.submission.receiver? running move).1
      simp only [follow]
      rw [act_eq_make running, ih run]

/-! ## Taking up a token -/

/-- A form that was left with a signed token can be taken up again. The token gives the state
    that was signed, and from that state all further moves are answered as they would be without
    the break, with the same states after them; and the same data, if any, is handed over, once. -/
theorem Driven.resumes (driven : Driven (handTo receiver) start on back w)
    (running : start.run = some first) (starts : first.sequence.Starts schema)
    (predictable : ∀ own, receiver = some own → Predictable own.receive) (here : w.run = some steps)
    {write : StepState → List UInt8} {read? : Binary64 → List UInt8 → Option StepState}
    {now : Binary64}
    (reads : read? now (write steps.sequence.snapshot) = some steps.sequence.snapshot)
    (mac : List UInt8 → List UInt8 → List UInt8) (key : List UInt8) :
    ∃ state, (TokenScheme.keyed write read? mac).verify key now none
        ((TokenScheme.keyed write read? mac).token key steps.sequence.snapshot) = some state ∧
      state = steps.sequence.snapshot ∧
      ∀ v other, v.run = some other → other.sequence = .restore schema state → ∀ moves,
        (follow (make (handTo receiver)) moves v).1 =
          (follow (make (handTo receiver)) moves w).1 ∧
        (∃ data : List (Entries Value), data.length ≤ 1 ∧
          (follow (make (handTo receiver)) moves w).2.submissions = w.submissions ++ data ∧
          (follow (make (handTo receiver)) moves v).2.submissions = v.submissions ++ data) ∧
        (receiver = steps.submission.receiver? → other.submission = steps.submission →
          (follow (act ·.action) moves v).1 = (follow (act ·.action) moves w).1) := by
  obtain ⟨same, drove⟩ := driven.drove running starts
  obtain rfl : same = steps := Option.some.inj (drove.running.symm.trans here)
  refine ⟨_, TokenScheme.verify_token mac reads rfl, rfl, fun v other there restored moves => ?_⟩
  rw [← drove.isOf, StepSequence.restore_snapshot drove.within] at restored
  have alike := follow_alike (predictable_handTo predictable) here there restored moves
  refine ⟨alike, ⟨handed receiver moves same.sequence, length_handed moves _,
    follow_submissions here moves, ?_⟩, ?_⟩
  · rw [follow_submissions there moves, restored]
  · rintro rfl again
    rw [follow_act here, follow_act there, again]
    exact alike

/-- Another host that has taken up the form about a pet. -/
def petTaken : Workspace where
  run := some
    { key := "pet", submission := .accepted
      sequence := .restore petSteps TokenScheme.petState }

theorem petSaid_driven : Driven (handTo (Submission.receiver? .accepted)) petBegun 1 0 petSaid := by
  have said : petSaid =
      (advanceTo (handTo (Submission.receiver? .accepted)) [("pet", .str "yes")] petBegun).2 := by
    rw [petSaid, act_advance, advance_eq_handTo (w := petBegun) rfl]
  rw [said]
  exact Driven.here.advanced _

def petMoves : List Move :=
  [.retreat, .advance [("pet", .str "no")], .advance [("petName", .str "Rex")], .retreat]

theorem petSaid_resumes :
    TokenScheme.standard.verify [] .zero none
        (TokenScheme.standard.token [] TokenScheme.petState) = some TokenScheme.petState ∧
      (follow (act ·.action) petMoves petTaken).1 =
        (follow (act ·.action) petMoves petSaid).1 ∧
      (follow (act ·.action) petMoves petSaid).1.map (·.1.isOk) = [true, true, true, false] ∧
      (follow (act ·.action) petMoves petTaken).2.submissions =
        [[("pet", .str "no"), ("petName", .str "Rex")]] := by
  obtain ⟨state, verified, rfl, resumed⟩ := petSaid_driven.resumes rfl (.fresh .zero)
    (predictable_receiver? .accepted) rfl TokenScheme.petState_reads Sha256.mac []
  obtain ⟨-, -, alike⟩ := resumed petTaken _ rfl rfl petMoves
  rw [TokenScheme.standard_eq_keyed]
  exact ⟨verified, alike rfl rfl, rfl, rfl⟩

end Workspace

end Formwork
