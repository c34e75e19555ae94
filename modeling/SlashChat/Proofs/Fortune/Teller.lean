import Mathlib.Logic.Function.Iterate
import SlashChat.Fortune.Teller
import SlashChat.Proofs.Switchboard.Response
import SlashChat.World

/-!
# What a teller sends

A request with a valid count sends the announcement and then as many picks as the count says, and
moves the source of the teller by exactly these picks (`sent_send`, `teller_send`); any other
request sends nothing and leaves the teller alone.  Picks add up: `a + b` of them are `a` and then
`b` from where the first stopped (`picks_add`).

How a pick moves a source does not depend on who asks for it, so the sequence that a source holds
can be written down without any teller: the pick at a place is made behind as many single picks
(`FortuneTable.sourceAfter`, `FortuneTable.pickAt`), and successive picks are its first elements
(`picks_eq_map_pickAt`).
-/

set_option autoImplicit false

namespace SlashChat

open SlashChat.Random (Source)

/-! ## Messages among acts -/

namespace Act

/-- The messages for the contact among some acts, in order. -/
def sent (acts : List Act) : List String :=
  acts.filterMap fun
    | .call (.send message) => some message
    | _ => none

/-- No acts send no messages. -/
@[simp]
theorem sent_nil : sent [] = [] := rfl

/-- Acts that are put together send the messages of the one group and then of the other. -/
@[simp]
theorem sent_append (acts more : List Act) : sent (acts ++ more) = sent acts ++ sent more :=
  List.filterMap_append

/-- A sending act sends its message in front of the later ones. -/
@[simp]
theorem sent_cons_send (message : String) (acts : List Act) :
    sent (.call (.send message) :: acts) = message :: sent acts := rfl

/-- A notice for the local user sends nothing. -/
@[simp]
theorem sent_cons_display (message : String) (acts : List Act) :
    sent (.call (.display message) :: acts) = sent acts := rfl

/-- A note for the log sends nothing. -/
@[simp]
theorem sent_cons_note (note : Note) (acts : List Act) : sent (.note note :: acts) = sent acts :=
  rfl

/-- Acts that do nothing but send send exactly their messages. -/
@[simp]
theorem sent_map_send (messages : List String) : sent (messages.map Act.send) = messages := by
  induction messages with
  | nil => rfl
  | cons message rest ih => rw [List.map_cons, sent_cons_send, ih]

end Act

/-! ## Picks -/

namespace FortuneTable

/-- Picks add up: the second group goes on with the source that the first one left. -/
theorem picks_add (table : FortuneTable) (a b : Nat) (source : Source) :
    table.picks (a + b) source =
      ((table.picks a source).1 ++ (table.picks b (table.picks a source).2).1,
        (table.picks b (table.picks a source).2).2) := by
  induction a generalizing source with
  | zero => simp [picks]
  | succ a ih =>
    have hsucc : a + 1 + b = (a + b) + 1 := by omega
    rw [hsucc]
    simp only [picks, ih, List.cons_append]

/-- The source that single picks leave, made one behind the other. -/
def sourceAfter (table : FortuneTable) (source : Source) (count : Nat) : Source :=
  (fun source => (table.pick source).2)^[count] source

/-- The fortune at a place of the sequence that a source holds. -/
def pickAt (table : FortuneTable) (source : Source) (place : Nat) : String :=
  (table.pick (table.sourceAfter source place)).1

/-- The sequence behind the first pick is the one that the source behind this pick holds. -/
theorem pickAt_succ (table : FortuneTable) (source : Source) (place : Nat) :
    table.pickAt source (place + 1) = table.pickAt (table.pick source).2 place := by
  unfold pickAt sourceAfter
  rw [Function.iterate_succ_apply]

/-- Successive picks are the first elements of the sequence and leave the source behind these. -/
theorem picks_eq_map_pickAt (table : FortuneTable) (count : Nat) (source : Source) :
    table.picks count source =
      ((List.range count).map (table.pickAt source), table.sourceAfter source count) := by
  induction count generalizing source with
  | zero => rfl
  | succ count ih =>
    have hmap : (List.range (count + 1)).map (table.pickAt source) =
        (table.pick source).1 :: (List.range count).map (table.pickAt (table.pick source).2) := by
      have hnext : table.pickAt source ∘ Nat.succ = table.pickAt (table.pick source).2 := by
        funext place
        exact table.pickAt_succ source place
      rw [List.range_succ_eq_map, List.map_cons, List.map_map, hnext]
      rfl
    rw [hmap]
    simp only [picks, ih]
    rfl

end FortuneTable

namespace Teller

/-! ## One request -/

/-- What a teller does about a count, or about the error of reading one. -/
def answer (teller : Teller) (nickname : String) : Except CountError Int → Telling
  | .ok count => teller.send nickname count
  | .error cause => ⟨[], .error cause, teller⟩

/-- Handling arguments is answering the count that is read from them. -/
theorem handle_eq_answer (teller : Teller) (nickname : String) (args : List String) :
    teller.handle nickname args = teller.answer nickname (FortuneCount.parse args) := by
  unfold handle answer
  cases FortuneCount.parse args <;> rfl

/-- A teller that sends tells the contact of the count and then the picks. -/
theorem sent_send (teller : Teller) (nickname : String) (count : Int) :
    Act.sent (teller.send nickname count).acts =
      FortuneCount.announcement nickname count ::
        (teller.table.picks count.toNat teller.source).1 := by
  simp [send]

/-- A teller that sends keeps its table, and its source moves by the picks. -/
theorem teller_send (teller : Teller) (nickname : String) (count : Int) :
    (teller.send nickname count).teller =
      ⟨teller.table, (teller.table.picks count.toNat teller.source).2⟩ := rfl

end Teller

/-! ## Handlers in the world -/

namespace World

variable {τ : Type}

/-- A number without a teller does nothing and changes nothing. -/
theorem run_of_none {world : World τ} {number : Nat} (hnone : world.tellers[number]? = none)
    (nickname : String) (args : List String) :
    run (.teller number) nickname args world = ⟨[], .ok (), world⟩ := by
  simp only [run, hnone]

/-- The handler of a teller does what the teller does, and changes nothing else in the world. -/
theorem run_of_some {world : World τ} {number : Nat} {teller : Teller}
    (hsome : world.tellers[number]? = some teller) (nickname : String) (args : List String) :
    (run (.teller number) nickname args world).acts = (teller.handle nickname args).acts ∧
      (run (.teller number) nickname args world).state =
        { world with
          tellers := world.tellers.set number (teller.handle nickname args).teller } := by
  simp only [run, hsome, and_self]

/-- A handler of another command leaves the tellers alone. -/
theorem tellers_run_custom (handler : Handler τ) (nickname : String) (args : List String)
    (world : World τ) : (run (.custom handler) nickname args world).state.tellers = world.tellers :=
  rfl

end World

/-- An answer sends what the handler sends and leaves the state that the handler leaves. -/
theorem Switchboard.answer_of_known {h σ : Type} [Handles h σ] (board : Switchboard h)
    (nickname : String) (request : Request) (state : σ) {command : Command h}
    (hfind : board.catalog.find? request.name = some command) :
    let turn := Handles.run command.handler nickname request.args state
    Act.sent (board.answer nickname request state).acts = Act.sent turn.acts ∧
      (board.answer nickname request state).state = turn.state := by
  intro turn
  cases hresult : turn.result with
  | ok done =>
    obtain ⟨opening, hanswer⟩ := board.answer_of_success nickname request state hfind rfl hresult
    rw [hanswer]
    exact ⟨Act.sent_cons_note .., rfl⟩
  | error cause =>
    obtain ⟨opening, closing, hanswer⟩ :=
      board.answer_of_failure nickname request state hfind rfl hresult
    rw [hanswer]
    exact ⟨by simp [reject, turn], rfl⟩

end SlashChat
