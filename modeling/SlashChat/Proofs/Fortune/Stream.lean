import SlashChat.Plugin.Set
import SlashChat.Proofs.Fortune.Teller

/-!
# One stream of fortunes for a teller

A teller can be reached in many ways: directly, and through every command that was ever bound to
it, in any catalog.  A `Hall` holds the tellers and the catalogs, and a `Happening` is anything that
goes on in it.  `Hall.asked` says which teller a happening asks and for how many fortunes.

A happening that asks a teller moves the source of that teller by the picks it sends
(`step_of_asked`), and any other happening leaves every teller where it is
(`tellers_step_of_not_asked`).  So over a whole run the fortunes of a teller are the first elements
of the sequence that its source holds, as many as it was validly asked for
(`fortunesOver_eq_picks`).
-/

set_option autoImplicit false

namespace SlashChat

open SlashChat.Random (Source)

/-! ## The hall -/

/-- The world, and the catalogs by number. -/
structure Hall (τ : Type) where
  world : World τ
  catalogs : Nat → Catalog (Binding τ)

/-- Something that goes on in a hall. -/
inductive Happening (τ : Type)
  /-- A teller is given a count. -/
  | send (number : Nat) (nickname : String) (count : Int)
  /-- A teller is given the arguments of a line. -/
  | handle (number : Nat) (nickname : String) (args : List String)
  /-- A new teller comes. -/
  | enlist (teller : Teller)
  /-- A command is added to a catalog, be it that of a teller or any other. -/
  | register (place : Nat) (command : Command (Binding τ))
  /-- Plugins are installed in a catalog. -/
  | install (place : Nat) (plugins : PluginSet (Binding τ) (World τ))
  /-- The command of a name is run. -/
  | invoke (place : Nat) (nickname name : String) (args : List String)
  /-- A line is answered. -/
  | line (place : Nat) (lead nickname text : String)

/-- A request that reaches a teller: its number, the nickname of the host, and the count or the
error of reading one. -/
structure Ask where
  number : Nat
  nickname : String
  count : Except CountError Int

namespace Hall

variable {τ : Type}

/-- The hall with a catalog exchanged. -/
def setCatalog (hall : Hall τ) (place : Nat) (catalog : Catalog (Binding τ)) : Hall τ :=
  { hall with catalogs := fun other => if other = place then catalog else hall.catalogs other }

/-- The hall with a teller exchanged. -/
def setTeller (hall : Hall τ) (number : Nat) (teller : Teller) : Hall τ :=
  { hall with
    world := { hall.world with tellers := hall.world.tellers.set number teller } }

/-- What a teller does directly; a number without a teller does nothing. -/
def tell (hall : Hall τ) (number : Nat) (telling : Teller → Telling) : Hall τ × List Act :=
  match hall.world.tellers[number]? with
  | none => (hall, [])
  | some teller => (hall.setTeller number (telling teller).teller, (telling teller).acts)

/-- The hall after a happening, and the acts of the happening. -/
def step (hall : Hall τ) : Happening τ → Hall τ × List Act
  | .send number nickname count => hall.tell number (·.send nickname count)
  | .handle number nickname args => hall.tell number (·.handle nickname args)
  | .enlist teller => ({ hall with world := (hall.world.enlist teller).2 }, [])
  | .register place command =>
    (hall.setCatalog place ((hall.catalogs place).register command), [])
  | .install place plugins =>
    (hall.setCatalog place (plugins.install (hall.catalogs place)).1, [])
  | .invoke place nickname name args =>
    match (hall.catalogs place).find? name with
    | none => (hall, [])
    | some command =>
      let turn := Handles.run command.handler nickname args hall.world
      ({ hall with world := turn.state }, turn.acts)
  | .line place lead nickname text =>
    let board : Switchboard (Binding τ) := ⟨lead, hall.catalogs place⟩
    let response := board.respond nickname text hall.world
    ({ hall with world := response.state }, response.acts)

/-- The hall after some happenings, in order. -/
def run (hall : Hall τ) (happenings : List (Happening τ)) : Hall τ :=
  happenings.foldl (fun hall happening => (hall.step happening).1) hall

/-! ## Who is asked for what -/

/-- The request that reaches a teller when the command of a name is run. -/
def askedBy (hall : Hall τ) (place : Nat) (nickname name : String) (args : List String) :
    Option Ask :=
  match (hall.catalogs place).find? name with
  | some ⟨_, _, .teller number⟩ => some ⟨number, nickname, FortuneCount.parse args⟩
  | _ => none

/-- The request that reaches a teller in a happening. -/
def asked (hall : Hall τ) : Happening τ → Option Ask
  | .send number nickname count => some ⟨number, nickname, .ok count⟩
  | .handle number nickname args => some ⟨number, nickname, FortuneCount.parse args⟩
  | .invoke place nickname name args => hall.askedBy place nickname name args
  | .line place lead nickname text =>
    match Request.read lead text with
    | .ok (some request) => hall.askedBy place nickname request.name request.args
    | _ => none
  | .enlist _ | .register _ _ | .install _ _ => none

/-- The fortunes that a teller sends in a happening: all messages of a request that reaches it,
without the announcement of the count. -/
def fortunes (number : Nat) (hall : Hall τ) (happening : Happening τ) : List String :=
  match hall.asked happening with
  | none => []
  | some ask =>
    if ask.number = number then
      match ask.count with
      | .ok count =>
        (Act.sent (hall.step happening).2).erase (FortuneCount.announcement ask.nickname count)
      | .error _ => Act.sent (hall.step happening).2
    else []

/-- How many fortunes a teller owes for a happening: the count of a valid request that reaches it,
and none when the count is negative. -/
def owed (number : Nat) (hall : Hall τ) (happening : Happening τ) : Nat :=
  match hall.asked happening with
  | none => 0
  | some ask =>
    if ask.number = number then
      match ask.count with
      | .ok count => (max count 0).toNat
      | .error _ => 0
    else 0

/-- The fortunes that a teller sends in a run, in order. -/
def fortunesOver (number : Nat) (hall : Hall τ) : List (Happening τ) → List String
  | [] => []
  | happening :: rest =>
    hall.fortunes number happening ++ fortunesOver number (hall.step happening).1 rest

/-- How many fortunes a teller owes for a run. -/
def owedOver (number : Nat) (hall : Hall τ) : List (Happening τ) → Nat
  | [] => 0
  | happening :: rest =>
    hall.owed number happening + owedOver number (hall.step happening).1 rest

/-! ## One happening -/

/-- The command that a name stands for asks a teller exactly when it is bound to one. -/
theorem askedBy_of_find? {hall : Hall τ} {place : Nat} {name : String}
    {command : Command (Binding τ)} (hfind : (hall.catalogs place).find? name = some command)
    (nickname : String) (args : List String) :
    hall.askedBy place nickname name args =
      match command.handler with
      | .teller number => some ⟨number, nickname, FortuneCount.parse args⟩
      | .custom _ => none := by
  obtain ⟨name, description, handler⟩ := command
  rw [askedBy, hfind]
  cases handler <;> rfl

/-- The handler of a teller does in the hall what telling the teller directly does. -/
theorem run_teller (hall : Hall τ) (number : Nat) (nickname : String) (args : List String) :
    let turn := World.run (.teller number) nickname args hall.world
    ({ hall with world := turn.state }, turn.acts) =
      hall.tell number (·.answer nickname (FortuneCount.parse args)) := by
  intro turn
  unfold tell
  cases hteller : hall.world.tellers[number]? with
  | none => simp only [turn, World.run_of_none hteller]
  | some teller =>
    obtain ⟨hacts, hstate⟩ := World.run_of_some hteller nickname args
    simp only [turn, hacts, hstate, Teller.handle_eq_answer]
    rfl

/-- Invoking the command that a name stands for runs its handler on the world. -/
theorem step_invoke_of_find? {hall : Hall τ} {place : Nat} {name : String}
    {command : Command (Binding τ)} (hfind : (hall.catalogs place).find? name = some command)
    (nickname : String) (args : List String) :
    hall.step (.invoke place nickname name args) =
      ({ hall with world := (World.run command.handler nickname args hall.world).state },
        (World.run command.handler nickname args hall.world).acts) := by
  simp only [step, hfind]
  rfl

/-- A command that is bound to a teller does what telling the teller directly does. -/
theorem step_invoke_of_asked {hall : Hall τ} {place : Nat} {nickname name : String}
    {args : List String} {ask : Ask} (hasked : hall.askedBy place nickname name args = some ask) :
    hall.step (.invoke place nickname name args) =
      hall.tell ask.number (·.answer ask.nickname ask.count) := by
  cases hfind : (hall.catalogs place).find? name with
  | none => simp [askedBy, hfind] at hasked
  | some command =>
    rw [askedBy_of_find? hfind] at hasked
    rw [step_invoke_of_find? hfind]
    cases hhandler : command.handler with
    | custom handler => simp [hhandler] at hasked
    | teller number =>
      rw [hhandler] at hasked
      obtain rfl := Option.some.inj hasked
      exact hall.run_teller number nickname args

/-- Any other command leaves the tellers alone. -/
theorem tellers_step_invoke {hall : Hall τ} {place : Nat} {nickname name : String}
    {args : List String} (hasked : hall.askedBy place nickname name args = none) :
    (hall.step (.invoke place nickname name args)).1.world.tellers = hall.world.tellers := by
  cases hfind : (hall.catalogs place).find? name with
  | none => simp only [step, hfind]
  | some command =>
    rw [askedBy_of_find? hfind] at hasked
    rw [step_invoke_of_find? hfind]
    cases hhandler : command.handler with
    | custom handler => exact World.tellers_run_custom handler nickname args hall.world
    | teller number => simp [hhandler] at hasked

/-- A line that is read as a request runs the command of the request; the switchboard adds notices
and notes only. -/
theorem step_line_of_request (hall : Hall τ) (place : Nat) {lead text : String}
    (nickname : String) {request : Request}
    (hread : Request.read lead text = .ok (some request)) :
    let invoked := hall.step (.invoke place nickname request.name request.args)
    (hall.step (.line place lead nickname text)).1 = invoked.1 ∧
      Act.sent (hall.step (.line place lead nickname text)).2 = Act.sent invoked.2 := by
  intro invoked
  let board : Switchboard (Binding τ) := ⟨lead, hall.catalogs place⟩
  have hresponse := board.respond_of_request nickname hall.world hread
  have hline : hall.step (.line place lead nickname text) =
      ({ hall with world := (board.answer nickname request hall.world).state },
        (board.answer nickname request hall.world).acts) := by
    rw [← hresponse]
    rfl
  cases hfind : (hall.catalogs place).find? request.name with
  | none =>
    have hinvoked : invoked = (hall, []) := by simp only [invoked, step, hfind]
    rw [hline, hinvoked, board.answer_of_unknown nickname request hall.world hfind]
    exact ⟨rfl, rfl⟩
  | some command =>
    obtain ⟨hsent, hstate⟩ := board.answer_of_known nickname request hall.world hfind
    rw [hline, show invoked = _ from step_invoke_of_find? hfind nickname request.args]
    exact ⟨by rw [hstate]; rfl, hsent⟩

/-- A line that is not read as a request leaves the hall as it is. -/
theorem step_line_of_no_request (hall : Hall τ) (place : Nat) {lead text : String}
    (nickname : String) (hread : ∀ request, Request.read lead text ≠ .ok (some request)) :
    (hall.step (.line place lead nickname text)).1 = hall := by
  let board : Switchboard (Binding τ) := ⟨lead, hall.catalogs place⟩
  have hstate : (board.respond nickname text hall.world).state = hall.world := by
    cases hcases : Request.read lead text with
    | error cause => rw [board.respond_of_error nickname hall.world hcases]; rfl
    | ok request? =>
      cases request? with
      | none => rw [board.respond_of_none nickname hall.world hcases]; split <;> rfl
      | some request => exact absurd hcases (hread request)
  show { hall with world := (board.respond nickname text hall.world).state } = hall
  rw [hstate]

/-- A happening that asks a teller does what telling the teller directly does. -/
theorem step_of_asked {hall : Hall τ} {happening : Happening τ} {ask : Ask}
    (hasked : hall.asked happening = some ask) :
    let told := hall.tell ask.number (·.answer ask.nickname ask.count)
    (hall.step happening).1 = told.1 ∧ Act.sent (hall.step happening).2 = Act.sent told.2 := by
  cases happening with
  | send number nickname count =>
    obtain rfl := Option.some.inj hasked
    exact ⟨rfl, rfl⟩
  | handle number nickname args =>
    obtain rfl := Option.some.inj hasked
    simp only [step, Teller.handle_eq_answer, and_self]
  | enlist teller => cases hasked
  | register place command => cases hasked
  | install place plugins => cases hasked
  | invoke place nickname name args =>
    rw [step_invoke_of_asked hasked]
    exact ⟨rfl, rfl⟩
  | line place lead nickname text =>
    simp only [asked] at hasked
    split at hasked
    · next request hread =>
      -- The line comes down to the invocation of the command that it asks for.
      obtain ⟨hhall, hsent⟩ := hall.step_line_of_request place nickname hread
      rw [hhall, hsent, step_invoke_of_asked hasked]
      exact ⟨rfl, rfl⟩
    · cases hasked

/-- Any other happening leaves every teller where it is. -/
theorem tellers_step_of_not_asked {hall : Hall τ} {happening : Happening τ}
    (hasked : hall.asked happening = none) :
    ∃ more, (hall.step happening).1.world.tellers = hall.world.tellers ++ more := by
  cases happening with
  | send number nickname count => cases hasked
  | handle number nickname args => cases hasked
  | enlist teller => exact ⟨[teller], rfl⟩
  | register place command => exact ⟨[], (List.append_nil _).symm⟩
  | install place plugins => exact ⟨[], (List.append_nil _).symm⟩
  | invoke place nickname name args =>
    exact ⟨[], by rw [tellers_step_invoke hasked, List.append_nil]⟩
  | line place lead nickname text =>
    refine ⟨[], ?_⟩
    simp only [asked] at hasked
    split at hasked
    · next request hread =>
      rw [(hall.step_line_of_request place nickname hread).1, tellers_step_invoke hasked,
        List.append_nil]
    · next hread =>
      rw [hall.step_line_of_no_request place nickname hread, List.append_nil]

/-! ## What a happening does to one teller -/

/-- A teller that is there is exchanged for the one that its telling leaves. -/
theorem tell_of_some {hall : Hall τ} {number : Nat} {teller : Teller}
    (hteller : hall.world.tellers[number]? = some teller) (telling : Teller → Telling) :
    hall.tell number telling =
      (hall.setTeller number (telling teller).teller, (telling teller).acts) := by
  simp only [tell, hteller]

/-- A number that had a teller has the new one after an exchange. -/
theorem getElem?_setTeller {hall : Hall τ} {number : Nat} {teller : Teller}
    (hteller : hall.world.tellers[number]? = some teller) (next : Teller) :
    (hall.setTeller number next).world.tellers[number]? = some next := by
  obtain ⟨hlt, -⟩ := List.getElem?_eq_some_iff.1 hteller
  exact List.getElem?_set_self hlt

/-- Telling one teller leaves every other one alone. -/
theorem getElem?_tell_of_ne (hall : Hall τ) {number other : Nat} (hne : other ≠ number)
    (telling : Teller → Telling) :
    (hall.tell other telling).1.world.tellers[number]? = hall.world.tellers[number]? := by
  unfold tell
  cases hall.world.tellers[other]? with
  | none => rfl
  | some teller => exact List.getElem?_set_ne hne

/-- In a happening a teller sends exactly the picks that it owes, and its source moves by these. -/
theorem step_eq_picks {hall : Hall τ} {number : Nat} {teller : Teller}
    (hteller : hall.world.tellers[number]? = some teller) (happening : Happening τ) :
    let drawn := teller.table.picks (hall.owed number happening) teller.source
    hall.fortunes number happening = drawn.1 ∧
      (hall.step happening).1.world.tellers[number]? = some ⟨teller.table, drawn.2⟩ := by
  unfold fortunes owed
  cases hasked : hall.asked happening with
  | none =>
    obtain ⟨more, hmore⟩ := tellers_step_of_not_asked hasked
    obtain ⟨hlt, -⟩ := List.getElem?_eq_some_iff.1 hteller
    refine ⟨rfl, ?_⟩
    rw [hmore, List.getElem?_append_left hlt, hteller]
    rfl
  | some ask =>
    obtain ⟨number', nickname, count⟩ := ask
    obtain ⟨hhall, hsent⟩ := step_of_asked hasked
    by_cases hnumber : number' = number
    · subst hnumber
      rw [tell_of_some hteller] at hhall hsent
      simp only [hhall, hsent, getElem?_setTeller hteller, if_true]
      cases count with
      | error cause => exact ⟨rfl, rfl⟩
      | ok count =>
        have hmax : (max count 0).toNat = count.toNat := by omega
        simp only [Teller.answer, Teller.sent_send, Teller.teller_send, List.erase_cons_head, hmax,
          and_self]
    · simp only [hhall, if_neg hnumber, getElem?_tell_of_ne hall hnumber, hteller]
      exact ⟨rfl, rfl⟩

/-! ## A whole run -/

/-- A run over two groups of happenings is a run over one and then over the other. -/
theorem run_append (hall : Hall τ) (happenings more : List (Happening τ)) :
    hall.run (happenings ++ more) = (hall.run happenings).run more := List.foldl_append

/-- Over a run a teller sends exactly the picks that it owes for the run, and its source moves by
these. -/
theorem run_eq_picks {hall : Hall τ} {number : Nat} {teller : Teller}
    (hteller : hall.world.tellers[number]? = some teller) (happenings : List (Happening τ)) :
    let drawn := teller.table.picks (hall.owedOver number happenings) teller.source
    hall.fortunesOver number happenings = drawn.1 ∧
      (hall.run happenings).world.tellers[number]? = some ⟨teller.table, drawn.2⟩ := by
  induction happenings generalizing hall teller with
  | nil => exact ⟨rfl, hteller⟩
  | cons happening rest ih =>
    obtain ⟨hfortunes, hnext⟩ := step_eq_picks hteller happening
    obtain ⟨hrest, hfinal⟩ := ih hnext
    intro drawn
    have hadd := teller.table.picks_add (hall.owed number happening)
      ((hall.step happening).1.owedOver number rest) teller.source
    refine ⟨?_, ?_⟩
    · rw [fortunesOver, hfortunes, hrest, show drawn = _ from hadd]
    · rw [show drawn = _ from hadd]
      exact hfinal

/-- Which teller a happening asks depends on the catalogs alone. -/
theorem asked_congr {hall other : Hall τ} (hcatalogs : other.catalogs = hall.catalogs)
    (happening : Happening τ) : other.asked happening = hall.asked happening := by
  cases happening <;> simp only [asked, askedBy, hcatalogs]

/-- What is owed for two groups of happenings is owed for the first and then, from where it led, for
the second. -/
theorem owedOver_append (number : Nat) (hall : Hall τ) (happenings more : List (Happening τ)) :
    hall.owedOver number (happenings ++ more) =
      hall.owedOver number happenings + (hall.run happenings).owedOver number more := by
  induction happenings generalizing hall with
  | nil => exact (Nat.zero_add _).symm
  | cons happening rest ih =>
    rw [List.cons_append, owedOver, owedOver, ih, Nat.add_assoc]
    rfl

/-- A teller that is asked for a count owes as many fortunes, and none for a negative count. -/
theorem owed_of_asked {hall : Hall τ} {number : Nat} {happening : Happening τ} {nickname : String}
    {count : Int} (hasked : hall.asked happening = some ⟨number, nickname, .ok count⟩) :
    hall.owed number happening = (max count 0).toNat := by
  simp only [owed, hasked, if_true]

/-- A request for a count moves the source of its teller by as many picks and changes nothing else.
-/
theorem step_of_asked_count {hall : Hall τ} {number : Nat} {teller : Teller}
    (hteller : hall.world.tellers[number]? = some teller) {happening : Happening τ}
    {nickname : String} {count : Int}
    (hasked : hall.asked happening = some ⟨number, nickname, .ok count⟩) :
    (hall.step happening).1 =
      hall.setTeller number ⟨teller.table, (teller.table.picks count.toNat teller.source).2⟩ := by
  rw [(step_of_asked hasked).1, tell_of_some hteller]
  rfl

/-- A request for `a + b` fortunes leaves the hall as a request for `a` and then one for `b` do,
whichever way each of them reaches the teller. -/
theorem step_split {hall : Hall τ} {number : Nat} {teller : Teller}
    (hteller : hall.world.tellers[number]? = some teller) {whole first second : Happening τ}
    {nickname nickname₁ nickname₂ : String} {a b : Int} (ha : 0 ≤ a) (hb : 0 ≤ b)
    (hwhole : hall.asked whole = some ⟨number, nickname, .ok (a + b)⟩)
    (hfirst : hall.asked first = some ⟨number, nickname₁, .ok a⟩)
    (hsecond : hall.asked second = some ⟨number, nickname₂, .ok b⟩) :
    ((hall.step first).1.step second).1 = (hall.step whole).1 ∧
      (hall.step first).1.owed number second = (max b 0).toNat := by
  have hstep := step_of_asked_count hteller hfirst
  have hcatalogs : (hall.step first).1.catalogs = hall.catalogs := by rw [hstep]; rfl
  have hsecond' := (asked_congr hcatalogs second).trans hsecond
  have hteller' : (hall.step first).1.world.tellers[number]? =
      some ⟨teller.table, (teller.table.picks a.toNat teller.source).2⟩ := by
    rw [hstep, getElem?_setTeller hteller]
  refine ⟨?_, owed_of_asked hsecond'⟩
  have hsum : (a + b).toNat = a.toNat + b.toNat := by omega
  rw [step_of_asked_count hteller hwhole, step_of_asked_count hteller' hsecond', hstep, hsum,
    FortuneTable.picks_add]
  simp only [setTeller, List.set_set]

/-- A happening that owes nothing leaves the teller as it is. -/
theorem getElem?_step_of_owed_eq_zero {hall : Hall τ} {number : Nat} {teller : Teller}
    (hteller : hall.world.tellers[number]? = some teller) {happening : Happening τ}
    (howed : hall.owed number happening = 0) :
    (hall.step happening).1.world.tellers[number]? = some teller := by
  have hnext := (step_eq_picks hteller happening).2
  rw [howed] at hnext
  exact hnext

/-- Behind any happenings a request for `a + b` fortunes can be exchanged for a request for `a` and
one for `b`: both runs send the same fortunes and lead to the same hall. -/
theorem run_exchange {hall : Hall τ} {number : Nat} {teller : Teller}
    (hteller : hall.world.tellers[number]? = some teller) (happenings : List (Happening τ))
    {whole first second : Happening τ} {nickname nickname₁ nickname₂ : String} {a b : Int}
    (ha : 0 ≤ a) (hb : 0 ≤ b)
    (hwhole : (hall.run happenings).asked whole = some ⟨number, nickname, .ok (a + b)⟩)
    (hfirst : (hall.run happenings).asked first = some ⟨number, nickname₁, .ok a⟩)
    (hsecond : (hall.run happenings).asked second = some ⟨number, nickname₂, .ok b⟩)
    (rest : List (Happening τ)) :
    hall.fortunesOver number (happenings ++ first :: second :: rest) =
        hall.fortunesOver number (happenings ++ whole :: rest) ∧
      hall.run (happenings ++ first :: second :: rest) =
        hall.run (happenings ++ whole :: rest) := by
  obtain ⟨-, hafter⟩ := run_eq_picks hteller happenings
  obtain ⟨hsplit, hsecond'⟩ := step_split hafter ha hb hwhole hfirst hsecond
  -- Both runs owe the same, so they draw the same.
  have howed : hall.owedOver number (happenings ++ first :: second :: rest) =
      hall.owedOver number (happenings ++ whole :: rest) := by
    rw [owedOver_append, owedOver_append]
    simp only [owedOver]
    rw [hsplit, hsecond', owed_of_asked hfirst, owed_of_asked hwhole]
    omega
  constructor
  · rw [(run_eq_picks hteller _).1, (run_eq_picks hteller _).1, howed]
  · rw [run_append, run_append]
    show (((hall.run happenings).step first).1.step second).1.run rest =
      ((hall.run happenings).step whole).1.run rest
    rw [hsplit]

/-- The fortunes that a teller sends over a run are as many as the run owes, each of them the pick
that is made when all earlier ones have been made one by one on the source of the seed, and that
source stands behind them in the end.  So a happening that owes nothing leaves the teller as it is,
and a request for `a + b` fortunes can be exchanged for a request for `a` and one for `b` without a
trace. -/
theorem fortunesOver_eq_picks (before : Hall τ) (table : FortuneTable) (seed : UInt64)
    (happenings : List (Happening τ)) :
    let number := before.world.tellers.length
    let hall := (before.step (.enlist ⟨table, .ofSeed seed⟩)).1
    let after := hall.run happenings
    let owed := hall.owedOver number happenings
    let behind (place : Nat) : Source :=
      (fun source => (table.pick source).2)^[place] (.ofSeed seed)
    hall.fortunesOver number happenings =
        (List.range owed).map (fun place => (table.pick (behind place)).1) ∧
      after.world.tellers[number]? = some ⟨table, behind owed⟩ ∧
      (∀ happening, after.owed number happening = 0 →
        (after.step happening).1.world.tellers[number]? = after.world.tellers[number]?) ∧
      ∀ (whole first second : Happening τ) (nickname nickname₁ nickname₂ : String) (a b : Int)
        (rest : List (Happening τ)), 0 ≤ a → 0 ≤ b →
        after.asked whole = some ⟨number, nickname, .ok (a + b)⟩ →
        after.asked first = some ⟨number, nickname₁, .ok a⟩ →
        after.asked second = some ⟨number, nickname₂, .ok b⟩ →
        hall.fortunesOver number (happenings ++ first :: second :: rest) =
            hall.fortunesOver number (happenings ++ whole :: rest) ∧
          hall.run (happenings ++ first :: second :: rest) =
            hall.run (happenings ++ whole :: rest) := by
  intro number hall after owed behind
  have hteller : hall.world.tellers[number]? = some ⟨table, .ofSeed seed⟩ :=
    List.getElem?_concat_length
  obtain ⟨hfortunes, hafter⟩ := run_eq_picks hteller happenings
  have hpicks := table.picks_eq_map_pickAt owed (.ofSeed seed)
  refine ⟨hfortunes.trans (congrArg Prod.fst hpicks), ?_, ?_, ?_⟩
  · rw [hafter, show table.picks (hall.owedOver number happenings) (.ofSeed seed) = _ from hpicks]
    rfl
  · intro happening howed
    exact (getElem?_step_of_owed_eq_zero hafter howed).trans hafter.symm
  · intro whole first second nickname nickname₁ nickname₂ a b rest ha hb hwhole hfirst hsecond
    exact run_exchange hteller happenings ha hb hwhole hfirst hsecond rest

/-- A line with a custom lead asks the teller that its command is bound to. -/
example :
    let hall : Hall Unit :=
      { world := { tellers := [⟨.builtin, .ofSeed 7⟩], rest := () }
        catalogs := fun _ => ⟨[⟨"/fortune", "", .teller 0⟩]⟩ }
    hall.owed 0 (.line 0 "!" "ann" "!fortune 3") = 3 := by
  decide +kernel

end Hall

end SlashChat
