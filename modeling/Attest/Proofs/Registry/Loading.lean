import Attest.Registry

/-!
What loading a name comes to. It looks at the history only to number the provider and to tell how
often the factory has been called before.
-/

namespace Attest

namespace History

variable {history : History} {event : Event}

@[simp] theorem calls_called (history : History) (label : Nat) :
    calls (.called label :: history) label = history.calls label + 1 :=
  List.count_cons_self

@[simp] theorem calls_called_of_ne {label other : Nat} (differs : label ≠ other)
    (history : History) : calls (.called label :: history) other = history.calls other := by
  apply List.count_cons_of_ne
  intro same
  cases same
  exact differs rfl

theorem calls_cons (uncalled : ∀ label, event ≠ .called label) (history : History) (label : Nat) :
    calls (event :: history) label = history.calls label :=
  List.count_cons_of_ne (uncalled label)

@[simp] theorem nextSerial_called (history : History) (label : Nat) :
    nextSerial (.called label :: history) = nextSerial history :=
  List.countP_cons_of_neg Bool.false_ne_true

/-- The histories are the same as far as loading looks at them. -/
structure Alike (left right : History) : Prop where
  calls : ∀ label, left.calls label = right.calls label
  nextSerial : left.nextSerial = right.nextSerial

namespace Alike

variable {left right : History}

theorem refl (history : History) : Alike history history where
  calls _ := rfl
  nextSerial := rfl

theorem trans {middle : History} (first : Alike left middle) (second : Alike middle right) :
    Alike left right where
  calls label := (first.calls label).trans (second.calls label)
  nextSerial := first.nextSerial.trans second.nextSerial

theorem cons (alike : Alike left right) (event : Event) :
    Alike (event :: left) (event :: right) where
  calls label := by
    have calls := alike.calls label
    rw [History.calls, History.calls] at calls ⊢
    rw [List.count_cons, List.count_cons, calls]
  nextSerial := by
    have serial := alike.nextSerial
    rw [History.nextSerial, History.nextSerial] at serial ⊢
    rw [List.countP_cons, List.countP_cons, serial]

theorem append (alike : Alike left right) (events : List Event) :
    Alike (events ++ left) (events ++ right) := by
  induction events with
  | nil => exact alike
  | cons event events ih => exact ih.cons event

end Alike

end History

/-- A product hands out one mechanism, however often it is called. -/
theorem Product.make_unique {product : Product} {factory factory' call call' : Nat}
    {mechanism mechanism' : Mechanism} {object object' : Object}
    (made : product.make factory call = .ok (mechanism, object))
    (again : product.make factory' call' = .ok (mechanism', object')) : mechanism' = mechanism := by
  cases product with
  | standing label standing =>
    cases made
    cases again
    rfl
  | claimed =>
    cases made
    cases again
    rfl
  | signed config clock =>
    simp only [make] at made again
    cases brought : Signed.Signer.ofConfig config clock <;> rw [brought] at made again
    · cases made
    · cases made
      cases again
      rfl

namespace Factory

/-- What a call comes to that so many others have preceded. -/
def outcome (factory : Factory) (earlier : Nat) : Except AuthError (Mechanism × Object) :=
  match factory.failure? earlier with
  | some cause => .error cause
  | none => factory.product.make factory.label earlier

/-- What it comes to for a name: the mechanism has to go by that name. -/
def outcomeAs (factory : Factory) (name : String) (earlier : Nat) :
    Except AuthError (Mechanism × Object) :=
  match factory.outcome earlier with
  | .error cause => .error (.loadFailed name cause.message)
  | .ok (mechanism, object) =>
    if mechanism.name = name then .ok (mechanism, object)
    else .error (.loadFailed name s!"mechanism identifies itself as {mechanism.name}")

theorem call_eq (factory : Factory) (history : History) :
    factory.call history =
      (factory.outcome (history.calls factory.label), .called factory.label :: history) :=
  rfl

theorem name_of_outcomeAs {factory : Factory} {name : String} {earlier : Nat}
    {mechanism : Mechanism} {object : Object}
    (made : factory.outcomeAs name earlier = .ok (mechanism, object)) : mechanism.name = name := by
  unfold outcomeAs at made
  split at made
  · cases made
  · split at made
    · cases made
      assumption
    · cases made

theorem made_of_outcomeAs {factory : Factory} {name : String} {earlier : Nat}
    {result : Mechanism × Object} (made : factory.outcomeAs name earlier = .ok result) :
    factory.product.make factory.label earlier = .ok result := by
  unfold outcomeAs at made
  split at made
  · cases made
  · rename_i mechanism object called
    split at made <;> cases made
    unfold outcome at called
    split at called
    · cases called
    · exact called

theorem loadFailed_of_outcomeAs {factory : Factory} {name : String} {earlier : Nat}
    {cause : AuthError} (failed : factory.outcomeAs name earlier = .error cause) :
    ∃ message, cause = .loadFailed name message := by
  unfold outcomeAs at failed
  split at failed
  · cases failed
    exact ⟨_, rfl⟩
  · split at failed <;> cases failed
    exact ⟨_, rfl⟩

end Factory

namespace Registry

variable {registry : Registry} {name : String} {factory : Factory} {history : History}
  {provider : Provider} {cause : AuthError}

theorem load_of_unknown (unknown : registry.factories.get? name = none) (history : History) :
    registry.load name history = (.error (.unknownMechanism name), history) := by
  simp only [load, unknown]

theorem load_of_failed (found : registry.factories.get? name = some factory)
    (failed : factory.outcomeAs name (history.calls factory.label) = .error cause) :
    registry.load name history = (.error cause, .called factory.label :: history) := by
  simp only [load, found, Factory.call_eq]
  unfold Factory.outcomeAs at failed
  split at failed
  · rename_i outcome
    rw [outcome]
    cases failed
    rfl
  · rename_i mechanism object outcome
    rw [outcome]
    by_cases named : mechanism.name = name
    · rw [if_pos named] at failed
      cases failed
    · rw [if_neg named] at failed
      cases failed
      simp only [if_neg named]

theorem load_of_made {mechanism : Mechanism} {object : Object}
    (found : registry.factories.get? name = some factory)
    (made : factory.outcomeAs name (history.calls factory.label) = .ok (mechanism, object)) :
    registry.load name history =
      (.ok { id := mechanism.id, name, mechanism, object, serial := history.nextSerial },
        .loaded history.nextSerial object :: .called factory.label :: history) := by
  have named := Factory.name_of_outcomeAs made
  simp only [load, found, Factory.call_eq]
  unfold Factory.outcomeAs at made
  split at made
  · cases made
  · rename_i outcome
    rw [outcome]
    split at made <;> cases made
    simp only [if_pos named, History.nextSerial_called]

/-- The factory that stands under a name. -/
def label? (registry : Registry) (name : String) : Option Nat :=
  (registry.factories.get? name).map Factory.label

theorem identity_of_load (loaded : (registry.load name history).1 = .ok provider) :
    provider.name = name ∧ provider.id = provider.mechanism.id ∧ provider.mechanism.name = name := by
  cases found : registry.factories.get? name with
  | none =>
    rw [load_of_unknown found] at loaded
    cases loaded
  | some factory =>
    cases made : factory.outcomeAs name (history.calls factory.label) with
    | error cause =>
      rw [load_of_failed found made] at loaded
      cases loaded
    | ok result =>
      rw [load_of_made found made] at loaded
      cases loaded
      exact ⟨rfl, rfl, Factory.name_of_outcomeAs made⟩

theorem made_of_load (loaded : (registry.load name history).1 = .ok provider) :
    ∃ factory object, registry.factories.get? name = some factory ∧
      factory.product.make factory.label (history.calls factory.label) =
        .ok (provider.mechanism, object) := by
  cases found : registry.factories.get? name with
  | none =>
    rw [load_of_unknown found] at loaded
    cases loaded
  | some factory =>
    cases made : factory.outcomeAs name (history.calls factory.label) with
    | error cause =>
      rw [load_of_failed found made] at loaded
      cases loaded
    | ok result =>
      rw [load_of_made found made] at loaded
      cases loaded
      exact ⟨factory, result.2, rfl, Factory.made_of_outcomeAs made⟩

theorem load_unique {history' : History} {provider' : Provider}
    (loaded : (registry.load name history).1 = .ok provider)
    (again : (registry.load name history').1 = .ok provider') :
    provider'.name = provider.name ∧ provider'.id = provider.id ∧
      provider'.mechanism = provider.mechanism := by
  obtain ⟨factory, object, found, made⟩ := made_of_load loaded
  obtain ⟨factory', object', found', made'⟩ := made_of_load again
  cases found.symm.trans found'
  have mechanism := Product.make_unique made made'
  have identity := identity_of_load loaded
  have identity' := identity_of_load again
  exact ⟨identity'.1.trans identity.1.symm,
    identity'.2.1.trans (mechanism ▸ identity.2.1.symm), mechanism⟩

/-- Loading calls the factory under the name once, and no other. -/
theorem calls_load (registry : Registry) (name : String) (history : History) (label : Nat) :
    (registry.load name history).2.calls label =
      history.calls label + if registry.label? name = some label then 1 else 0 := by
  have called (factory : Factory) : History.calls (.called factory.label :: history) label =
      history.calls label + if some factory.label = some label then 1 else 0 := by
    by_cases same : factory.label = label
    · rw [same, History.calls_called, if_pos rfl]
    · rw [History.calls_called_of_ne same, if_neg (fun equal => same (Option.some.inj equal))]
      rfl
  cases found : registry.factories.get? name with
  | none =>
    rw [load_of_unknown found, label?, found, if_neg (by simp)]
    rfl
  | some factory =>
    rw [label?, found, Option.map_some, ← called factory]
    cases made : factory.outcomeAs name (history.calls factory.label) with
    | error cause => rw [load_of_failed found made]
    | ok result =>
      rw [load_of_made found made]
      exact History.calls_cons (by simp) _ _

/-- A load that fails changes nothing for a name with another factory. -/
theorem load_after_failed {other : String} {left : History}
    (failed : registry.load other history = (.error cause, left))
    (apart : ∀ label, registry.label? other = some label → registry.label? name ≠ some label) :
    (registry.load name left).1 = (registry.load name history).1 := by
  cases blamed : registry.factories.get? other with
  | none =>
    rw [load_of_unknown blamed] at failed
    cases failed
    rfl
  | some failing =>
    have left_eq : left = .called failing.label :: history := by
      cases made : failing.outcomeAs other (history.calls failing.label) with
      | error cause =>
        rw [load_of_failed blamed made] at failed
        exact (congrArg Prod.snd failed).symm
      | ok result =>
        rw [load_of_made blamed made] at failed
        cases failed
    cases found : registry.factories.get? name with
    | none => rw [load_of_unknown found, load_of_unknown found]
    | some factory =>
      have differs : failing.label ≠ factory.label := by
        intro same
        apply apart failing.label
        · rw [label?, blamed, Option.map_some]
        · rw [label?, found, Option.map_some, same]
      have calls : left.calls factory.label = history.calls factory.label := by
        rw [left_eq, History.calls_called_of_ne differs]
      cases made : factory.outcomeAs name (history.calls factory.label) with
      | error cause => rw [load_of_failed found made, load_of_failed found (calls ▸ made)]
      | ok result =>
        rw [load_of_made found made, load_of_made found (calls ▸ made), left_eq,
          History.nextSerial_called]

/-- Alike histories make no difference to a load, and are left alike by it. -/
theorem load_alike {left right : History} (alike : left.Alike right) (registry : Registry)
    (name : String) :
    (registry.load name left).1 = (registry.load name right).1 ∧
      (registry.load name left).2.Alike (registry.load name right).2 := by
  cases found : registry.factories.get? name with
  | none =>
    rw [load_of_unknown found, load_of_unknown found]
    exact ⟨rfl, alike⟩
  | some factory =>
    cases made : factory.outcomeAs name (left.calls factory.label) with
    | error cause =>
      rw [load_of_failed found made, load_of_failed found (alike.calls factory.label ▸ made)]
      exact ⟨rfl, alike.cons _⟩
    | ok result =>
      rw [load_of_made found made, load_of_made found (alike.calls factory.label ▸ made),
        alike.nextSerial]
      exact ⟨rfl, (alike.cons _).cons _⟩

end Registry

end Attest
