import Mathlib.Logic.Basic

/-!
# Programs that fail and programs that roll back

A service method reads and writes a state and may throw.  The state after an
exception matters, because only part of it belongs to the database
transaction: what a remote call did stays done.  The rules compose frame facts
along a program (`Keeps`) and take a successful run apart (`exec_bind_ok`).
-/

namespace ShoppingWeb

/-- A program over `State` that returns a value or throws an `Error`. -/
abbrev Program (State Error Value : Type) := ExceptT Error (StateM State) Value

namespace Program

variable {State Error Value Result View : Type}

/-- Run a program: its outcome, and the state it leaves behind either way. -/
def exec (action : Program State Error Value) (state : State) : Except Error Value × State :=
  (ExceptT.run action) state

@[simp]
theorem exec_pure (value : Value) (state : State) :
    exec (pure value : Program State Error Value) state = (.ok value, state) := rfl

@[simp]
theorem exec_throw (error : Error) (state : State) :
    exec (throw error : Program State Error Value) state = (.error error, state) := rfl

@[simp]
theorem exec_get (state : State) :
    exec (get : Program State Error State) state = (.ok state, state) := rfl

@[simp]
theorem exec_modify (change : State → State) (state : State) :
    exec (modify change : Program State Error PUnit) state = (.ok ⟨⟩, change state) := rfl

theorem exec_bind (action : Program State Error Value)
    (next : Value → Program State Error Result) (state : State) :
    exec (action >>= next) state =
      match exec action state with
      | (.ok value, middle) => exec (next value) middle
      | (.error error, middle) => (.error error, middle) := by
  change (ExceptT.bindCont next (exec action state).1) (exec action state).2 = _
  cases exec action state with
  | mk outcome middle => cases outcome <;> rfl

/-- A sequence that returns came through both of its parts. -/
theorem exec_bind_ok {action : Program State Error Value}
    {next : Value → Program State Error Result} {state final : State} {result : Result} :
    exec (action >>= next) state = (.ok result, final) ↔
      ∃ value middle, exec action state = (.ok value, middle) ∧
        exec (next value) middle = (.ok result, final) := by
  rw [exec_bind]
  cases exec action state with
  | mk outcome middle => cases outcome <;> simp [and_assoc]

/-- A sequence ends in its first part, by an error, or in its second. -/
theorem exec_bind_cases {action : Program State Error Value}
    {next : Value → Program State Error Result} {state final : State}
    {outcome : Except Error Result} (hexec : exec (action >>= next) state = (outcome, final)) :
    (∃ error, outcome = .error error ∧ exec action state = (.error error, final)) ∨
      ∃ value middle, exec action state = (.ok value, middle) ∧
        exec (next value) middle = (outcome, final) := by
  rw [exec_bind] at hexec
  split at hexec
  · rename_i value middle haction
    exact Or.inr ⟨value, middle, haction, hexec⟩
  · rename_i error middle haction
    obtain ⟨rfl, rfl⟩ := Prod.mk.inj hexec
    exact Or.inl ⟨error, rfl, haction⟩

/-- Continue with the value of a pure computation, or throw its error. -/
def ofExcept : Except Error Value → Program State Error Value
  | .ok value => pure value
  | .error error => throw error

theorem exec_ofExcept (computed : Except Error Value) (state : State) :
    exec (ofExcept computed) state = (computed, state) := by
  cases computed <;> rfl

/-- However the program ends, `view` of the state is as before. -/
def Keeps (view : State → View) (action : Program State Error Value) : Prop :=
  ∀ state, view (exec action state).2 = view state

variable {view : State → View}

theorem keeps_pure (value : Value) :
    Keeps view (pure value : Program State Error Value) := fun _ => rfl

theorem keeps_throw (error : Error) :
    Keeps view (throw error : Program State Error Value) := fun _ => rfl

theorem keeps_get : Keeps view (get : Program State Error State) := fun _ => rfl

theorem keeps_modify {change : State → State}
    (hchange : ∀ state, view (change state) = view state) :
    Keeps view (modify change : Program State Error PUnit) := hchange

theorem keeps_ofExcept (computed : Except Error Value) :
    Keeps view (ofExcept computed : Program State Error Value) := fun state => by
  rw [exec_ofExcept]

theorem keeps_bind {action : Program State Error Value}
    {next : Value → Program State Error Result} (haction : Keeps view action)
    (hnext : ∀ value, Keeps view (next value)) : Keeps view (action >>= next) := by
  intro state
  have hfirst := haction state
  rw [exec_bind]
  cases hexec : exec action state with
  | mk outcome middle =>
      rw [hexec] at hfirst
      cases outcome with
      | ok value => exact (hnext value middle).trans hfirst
      | error error => exact hfirst

theorem keeps_ite {condition : Prop} [Decidable condition]
    {first second : Program State Error Value} (hfirst : Keeps view first)
    (hsecond : Keeps view second) : Keeps view (if condition then first else second) := by
  split
  · exact hfirst
  · exact hsecond

/-- Repeat a program for every element of a list. -/
def each {Item : Type} (body : Item → Program State Error PUnit) :
    List Item → Program State Error PUnit
  | [] => pure ⟨⟩
  | item :: items => do
      body item
      each body items

theorem keeps_each {Item : Type} {body : Item → Program State Error PUnit}
    (hbody : ∀ item, Keeps view (body item)) (items : List Item) :
    Keeps view (each body items) := by
  induction items with
  | nil => exact keeps_pure _
  | cons item items ih => exact keeps_bind (hbody item) fun _ => ih

/-- However the program ends, the state has moved along `relation`. -/
def Moves (relation : State → State → Prop) (action : Program State Error Value) : Prop :=
  ∀ state, relation state (exec action state).2

section Moves

variable {relation : State → State → Prop}

theorem moves_pure (hrefl : ∀ state, relation state state) (value : Value) :
    Moves relation (pure value : Program State Error Value) := fun state => hrefl state

theorem moves_throw (hrefl : ∀ state, relation state state) (error : Error) :
    Moves relation (throw error : Program State Error Value) := fun state => hrefl state

theorem moves_modify {change : State → State} (hchange : ∀ state, relation state (change state)) :
    Moves relation (modify change : Program State Error PUnit) := hchange

theorem moves_bind (htrans : ∀ first second third, relation first second →
      relation second third → relation first third)
    {action : Program State Error Value} {next : Value → Program State Error Result}
    (haction : Moves relation action) (hnext : ∀ value, Moves relation (next value)) :
    Moves relation (action >>= next) := by
  intro state
  have hfirst := haction state
  rw [exec_bind]
  cases hexec : exec action state with
  | mk outcome middle =>
      rw [hexec] at hfirst
      cases outcome with
      | ok value => exact htrans _ _ _ hfirst (hnext value middle)
      | error error => exact hfirst

theorem moves_each (hrefl : ∀ state, relation state state)
    (htrans : ∀ first second third, relation first second →
      relation second third → relation first third)
    {Item : Type} {body : Item → Program State Error PUnit}
    (hbody : ∀ item, Moves relation (body item)) (items : List Item) :
    Moves relation (each body items) := by
  induction items with
  | nil => exact moves_pure hrefl _
  | cons item items ih => exact moves_bind htrans (hbody item) fun _ => ih

end Moves

/-- A sequence of pure computations that returns came through both parts. -/
theorem except_bind_ok {computed : Except Error Value} {next : Value → Except Error Result}
    {result : Result} :
    (computed >>= next) = .ok result ↔
      ∃ value, computed = .ok value ∧ next value = .ok result := by
  cases computed <;> simp [bind, Except.bind]

/-- The invariant rule for a loop that may throw: it relates the items done so
far to the loop's variables. -/
theorem foldlM_induction {Item Variables : Type} {body : Variables → Item → Except Error Variables}
    (invariant : List Item → Variables → Prop) {items : List Item}
    {initial final : Variables} (hinitial : invariant [] initial)
    (hbody : ∀ done item before after, invariant done before → item ∈ items →
      body before item = .ok after → invariant (done ++ [item]) after)
    (hfold : items.foldlM body initial = .ok final) : invariant items final := by
  have hloop : ∀ (rest done : List Item) (before : Variables), (∀ item ∈ rest, item ∈ items) →
      invariant done before → rest.foldlM body before = .ok final →
      invariant (done ++ rest) final := by
    intro rest
    induction rest with
    | nil =>
        intro done before _ hbefore hend
        obtain rfl : before = final := by simpa [pure, Except.pure] using hend
        simpa using hbefore
    | cons item rest ih =>
        intro done before hmem hbefore hrest
        rw [List.foldlM_cons] at hrest
        cases hitem : body before item with
        | error error =>
            rw [hitem] at hrest
            cases hrest
        | ok after =>
            rw [hitem] at hrest
            have hafter := hbody done item before after hbefore (hmem item List.mem_cons_self) hitem
            simpa using ih (done ++ [item]) after
              (fun other hother => hmem other (List.mem_cons_of_mem _ hother)) hafter hrest
  simpa using hloop items [] initial (fun _ hitem => hitem) hinitial hfold

/-- A loop whose body never throws on its items comes to an end. -/
theorem foldlM_ok_of_forall {Item Variables : Type}
    {body : Variables → Item → Except Error Variables} {items : List Item}
    (hbody : ∀ item ∈ items, ∀ before, ∃ after, body before item = .ok after)
    (initial : Variables) : ∃ final, items.foldlM body initial = .ok final := by
  induction items generalizing initial with
  | nil => exact ⟨initial, rfl⟩
  | cons item items ih =>
      obtain ⟨after, hafter⟩ := hbody item List.mem_cons_self initial
      rw [List.foldlM_cons, hafter]
      exact ih (fun other hother => hbody other (List.mem_cons_of_mem _ hother)) after

/-- What the network makes of one HTTP request. -/
inductive Delivery where
  | success
  /-- The request never takes effect and the caller sees an exception. -/
  | failsBefore
  /-- The request takes effect but its reply is lost, so the caller sees an
  exception too. -/
  | replyLost
  deriving DecidableEq, Repr

/-- Call a remote operation, whose effect survives an exception of the caller. -/
def remote (delivery : Delivery) (error : Error) (operation : Program State Error Value) :
    Program State Error Value :=
  match delivery with
  | .success => operation
  | .failsBefore => throw error
  | .replyLost => do
      let _ ← operation
      throw error

theorem keeps_remote {operation : Program State Error Value} (hoperation : Keeps view operation)
    (delivery : Delivery) (error : Error) : Keeps view (remote delivery error operation) := by
  cases delivery with
  | success => exact hoperation
  | failsBefore => exact keeps_throw error
  | replyLost => exact keeps_bind hoperation fun _ => keeps_throw error

/-- A remote operation returns only when its reply arrives. -/
theorem exec_remote_ok {delivery : Delivery} {error : Error}
    {operation : Program State Error Value} {state final : State} {value : Value} :
    exec (remote delivery error operation) state = (.ok value, final) ↔
      delivery = .success ∧ exec operation state = (.ok value, final) := by
  cases delivery with
  | success => simp [remote]
  | failsBefore => simp [remote]
  | replyLost => simp [remote, exec_bind_ok]

/-- Spring's `@Transactional`: when the body throws, or when the commit fails,
the part of the state that belongs to the database is restored. -/
def transactional (restore : State → State → State) (commitFailure : Option Error)
    (body : Program State Error Value) : Program State Error Value := fun state =>
  match exec body state with
  | (.ok value, final) =>
      match commitFailure with
      | none => (.ok value, final)
      | some error => (.error error, restore state final)
  | (.error error, final) => (.error error, restore state final)

theorem exec_transactional (restore : State → State → State) (commitFailure : Option Error)
    (body : Program State Error Value) (state : State) :
    exec (transactional restore commitFailure body) state =
      match exec body state with
      | (.ok value, final) =>
          match commitFailure with
          | none => (.ok value, final)
          | some error => (.error error, restore state final)
      | (.error error, final) => (.error error, restore state final) := rfl

theorem keeps_transactional {restore : State → State → State} {commitFailure : Option Error}
    {body : Program State Error Value} (hbody : Keeps view body)
    (hrestore : ∀ before after, view (restore before after) = view after) :
    Keeps view (transactional restore commitFailure body) := by
  intro state
  have hfinal := hbody state
  rw [exec_transactional]
  cases hexec : exec body state with
  | mk outcome middle =>
      rw [hexec] at hfinal
      cases outcome <;> cases commitFailure <;> simp_all

end Program

end ShoppingWeb
