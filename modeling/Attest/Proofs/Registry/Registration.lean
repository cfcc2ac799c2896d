import Mathlib.Data.List.Nodup
import Attest.Proofs.Provider.Ledger

/-!
A registry in use. Names are registered, also anew, providers are loaded and unloaded, in any order.
What a name stands for is what was registered under it last; nothing else that was done makes a
difference to it, and in what order different names came in can no longer be told.
-/

namespace Attest

namespace NameMap

theorem mem_names {map : NameMap α} {name : String} :
    name ∈ map.names ↔ map.contains name = true := by
  rw [contains, Option.isSome_iff_exists, names, List.mem_map]
  simp only [get?_eq_some_iff]
  constructor
  · rintro ⟨⟨_, item⟩, member, rfl⟩
    exact ⟨item, member⟩
  · rintro ⟨item, member⟩
    exact ⟨_, member, rfl⟩

theorem nodup_entries (map : NameMap α) : map.entries.Nodup :=
  map.nodup_names.of_map

/-- A map is what it shows, however it was made. -/
theorem eq_of_get? {left right : NameMap α} (same : ∀ name, left.get? name = right.get? name) :
    left = right := by
  have members (entry : String × α) : entry ∈ left.entries ↔ entry ∈ right.entries := by
    obtain ⟨name, item⟩ := entry
    rw [← get?_eq_some_iff, ← get?_eq_some_iff, same]
  have permuted : left.entries.Perm right.entries :=
    (List.perm_ext_iff_of_nodup left.nodup_entries right.nodup_entries).2 members
  refine eq_of_entries (permuted.eq_of_pairwise ?_ left.ascending right.ascending)
  intro earlier later _ _ before after
  exact absurd (String.lt_trans before after) (String.lt_irrefl _)

end NameMap

namespace History

/-- Only providers that have been loaded have been released. -/
def Sound (history : History) : Prop :=
  ∀ serial, history.isReleased serial = true → serial < history.nextSerial

variable {history after : History} {provider : Provider}

theorem sound_of_entries (sound : history.Sound) (same : after.entries = history.entries) :
    after.Sound := by
  intro serial released
  rw [← isReleased_entries, same, isReleased_entries] at released
  rw [← nextSerial_entries, same, nextSerial_entries]
  exact sound serial released

theorem unreleased_of_loaded (sound : history.Sound)
    (serial : provider.serial = history.nextSerial)
    (entries : after.entries = .loaded provider.serial provider.object :: history.entries) :
    after.isReleased provider.serial = false := by
  rw [← isReleased_entries, entries, Bool.eq_false_iff]
  intro released
  rcases isReleased_cons.1 released with ⟨⟨⟩⟩ | earlier
  rw [isReleased_entries] at earlier
  exact Nat.lt_irrefl _ (serial ▸ sound _ earlier)

theorem nextSerial_of_loaded
    (entries : after.entries = .loaded provider.serial provider.object :: history.entries) :
    after.nextSerial = history.nextSerial + 1 := by
  rw [← nextSerial_entries, entries, ← history.nextSerial_entries]
  exact List.countP_cons_of_pos rfl

theorem sound_of_loaded (sound : history.Sound)
    (entries : after.entries = .loaded provider.serial provider.object :: history.entries) :
    after.Sound := by
  intro serial released
  rw [← isReleased_entries, entries] at released
  rcases isReleased_cons.1 released with ⟨⟨⟩⟩ | earlier
  rw [isReleased_entries] at earlier
  rw [nextSerial_of_loaded entries]
  exact Nat.lt_succ_of_lt (sound serial earlier)

theorem nextSerial_release (provider : Provider) (history : History) :
    (provider.release history).2.nextSerial = history.nextSerial := by
  cases released : history.isReleased provider.serial with
  | true => rw [Provider.release_again released]
  | false =>
    rw [Provider.release_first released]
    rfl

theorem sound_release (sound : history.Sound) (loaded : provider.serial < history.nextSerial) :
    (provider.release history).2.Sound := by
  intro serial
  rw [nextSerial_release]
  cases released : history.isReleased provider.serial with
  | true =>
    rw [Provider.release_again released]
    exact sound serial
  | false =>
    rw [Provider.release_first released, isReleased_cons, isReleased_cons]
    rintro (⟨⟨⟩⟩ | ⟨⟨⟩⟩ | earlier)
    · exact loaded
    · exact sound serial earlier

end History

namespace Registry

/-- What loading a name comes to if this stands under it. A factory is called once, and never if
there is none. -/
inductive Loads (name : String) (history : History) :
    Option Factory → Except AuthError Provider × History → Prop where
  | unknown : Loads name history none (.error (.unknownMechanism name), history)
  | failed {factory : Factory} {cause : AuthError}
    (fails : factory.outcome (history.calls factory.label) = .error cause) :
    Loads name history (some factory)
      (.error (.loadFailed name cause.message), .called factory.label :: history)
  | misnamed {factory : Factory} {mechanism : Mechanism} {object : Object}
    (makes : factory.outcome (history.calls factory.label) = .ok (mechanism, object))
    (other : mechanism.name ≠ name) :
    Loads name history (some factory)
      (.error (.loadFailed name s!"mechanism identifies itself as {mechanism.name}"),
        .called factory.label :: history)
  | loaded {factory : Factory} {mechanism : Mechanism} {object : Object}
    (makes : factory.outcome (history.calls factory.label) = .ok (mechanism, object))
    (named : mechanism.name = name) :
    Loads name history (some factory)
      (.ok { id := mechanism.id, name, mechanism, object, serial := history.nextSerial },
        .loaded history.nextSerial object :: .called factory.label :: history)

theorem loads (registry : Registry) (name : String) (history : History) :
    Loads name history (registry.factories.get? name) (registry.load name history) := by
  cases found : registry.factories.get? name with
  | none =>
    rw [load_of_unknown found]
    exact .unknown
  | some factory =>
    cases makes : factory.outcome (history.calls factory.label) with
    | error cause =>
      rw [load_of_failed found (by rw [Factory.outcomeAs, makes])]
      exact .failed makes
    | ok result =>
      obtain ⟨mechanism, object⟩ := result
      by_cases named : mechanism.name = name
      · rw [load_of_made found (by rw [Factory.outcomeAs, makes]; exact if_pos named)]
        exact .loaded makes named
      · rw [load_of_failed found (by rw [Factory.outcomeAs, makes]; exact if_neg named)]
        exact .misnamed makes named

theorem load_congr {left right : Registry} {name : String}
    (same : left.factories.get? name = right.factories.get? name) :
    left.load name = right.load name := by
  funext history
  unfold load
  rw [same]

theorem eq_of_factories {left right : Registry}
    (same : ∀ name, left.factories.get? name = right.factories.get? name) : left = right := by
  obtain ⟨factories⟩ := left
  obtain ⟨others⟩ := right
  exact congrArg mk (NameMap.eq_of_get? same)

end Registry

/-- A registry in use, what has happened, and the providers that its loads have given. -/
structure Depot where
  registry : Registry := {}
  history : History := []
  providers : List Provider := []

namespace Depot

inductive Act where
  | register (name : String) (factory : Factory)
  | registerObject (label : Nat) (mechanism : Mechanism)
  | load (name : String)
  /-- Unloads the provider that was loaded after so many others. -/
  | unload (index : Nat)

/-- What an act puts under a name. -/
def Act.under? (name : String) : Act → Option Factory
  | .register registered factory => if name = registered then some factory else none
  | .registerObject label mechanism =>
    if name = mechanism.name then some { label, product := .standing label mechanism } else none
  | .load _ | .unload _ => none

def Act.Registers (act : Act) (name : String) : Prop :=
  ∃ factory, act.under? name = some factory

def perform (depot : Depot) : Act → Depot
  | .register name factory => { depot with registry := depot.registry.register name factory }
  | .registerObject label mechanism =>
    { depot with registry := depot.registry.registerObject label mechanism }
  | .load name =>
    match depot.registry.load name depot.history with
    | (.ok provider, history) =>
      { depot with history, providers := depot.providers ++ [provider] }
    | (.error _, history) => { depot with history }
  | .unload index =>
    match depot.providers[index]? with
    | some provider => { depot with history := (provider.release depot.history).2 }
    | none => depot

def after (depot : Depot) (acts : List Act) : Depot :=
  acts.foldl perform depot

/-- What was registered last under a name. -/
def last? (name : String) (acts : List Act) : Option Factory :=
  acts.reverse.findSome? (Act.under? name)

variable {depot : Depot} {act : Act} {acts : List Act} {name : String}

theorem last?_cons (name : String) (act : Act) (acts : List Act) :
    last? name (act :: acts) = (last? name acts).or (act.under? name) := by
  rw [last?, List.reverse_cons, List.findSome?_append, List.findSome?_singleton, ← last?]

theorem exists_last?_iff : (last? name acts).isSome = true ↔ ∃ act ∈ acts, act.Registers name := by
  rw [last?, List.findSome?_isSome_iff]
  simp only [List.mem_reverse, Option.isSome_iff_exists, Act.Registers]

/-- An act changes what stands under the names that it registers, and nothing else in the
registry. -/
theorem get?_perform (depot : Depot) (act : Act) (name : String) :
    (depot.perform act).registry.factories.get? name =
      (act.under? name).or (depot.registry.factories.get? name) := by
  cases act with
  | register registered factory =>
    refine (NameMap.get?_insert ..).trans ?_
    rw [Act.under?]
    split <;> rfl
  | registerObject label mechanism =>
    refine (NameMap.get?_insert ..).trans ?_
    rw [Act.under?]
    split <;> rfl
  | load wanted =>
    rw [perform]
    split <;> rfl
  | unload index =>
    rw [perform]
    split <;> rfl

theorem get?_after (depot : Depot) (acts : List Act) (name : String) :
    (depot.after acts).registry.factories.get? name =
      (last? name acts).or (depot.registry.factories.get? name) := by
  induction acts generalizing depot with
  | nil => rfl
  | cons act acts ih =>
    rw [after, List.foldl_cons, ← after, ih, get?_perform, last?_cons, Option.or_assoc]

theorem get?_after_new (acts : List Act) (name : String) :
    (after {} acts).registry.factories.get? name = last? name acts := by
  rw [get?_after]
  exact Option.or_none

/-- What has been released was loaded before, and so was what is held. -/
structure Sound (depot : Depot) : Prop where
  history : depot.history.Sound
  providers : ∀ provider ∈ depot.providers, provider.serial < depot.history.nextSerial

theorem sound_new : Sound {} where
  history := nofun
  providers := nofun

theorem sound_perform (sound : depot.Sound) (act : Act) : (depot.perform act).Sound := by
  cases act with
  | register | registerObject => exact ⟨sound.history, sound.providers⟩
  | load name =>
    rw [perform]
    rcases loading : depot.registry.load name depot.history with ⟨cause | provider, history⟩
    · have entries := Registry.entries_of_failed loading
      refine ⟨History.sound_of_entries sound.history entries, fun provider member => ?_⟩
      show provider.serial < history.nextSerial
      rw [← History.nextSerial_entries, entries, History.nextSerial_entries]
      exact sound.providers provider member
    · obtain ⟨serial, entries⟩ := Registry.entries_of_loaded loading
      refine ⟨History.sound_of_loaded sound.history entries, fun held member => ?_⟩
      show held.serial < history.nextSerial
      rw [History.nextSerial_of_loaded entries]
      rcases List.mem_append.1 member with earlier | new
      · exact Nat.lt_succ_of_lt (sound.providers held earlier)
      · cases List.mem_singleton.1 new
        exact Nat.lt_succ_of_le (Nat.le_of_eq serial)
  | unload index =>
    rw [perform]
    cases held : depot.providers[index]? with
    | none => exact sound
    | some provider =>
      have loaded := sound.providers provider (List.mem_of_getElem? held)
      refine ⟨History.sound_release sound.history loaded, fun other member => ?_⟩
      show other.serial < (provider.release depot.history).2.nextSerial
      rw [History.nextSerial_release]
      exact sound.providers other member

theorem sound_after (sound : depot.Sound) (acts : List Act) : (depot.after acts).Sound := by
  induction acts generalizing depot with
  | nil => exact sound
  | cons act acts ih => exact ih (sound_perform sound act)

theorem perform_of_registers (registers : act.Registers name) :
    ∃ factory, ∀ depot : Depot,
      depot.perform act = { depot with registry := depot.registry.register name factory } := by
  obtain ⟨factory, under⟩ := registers
  refine ⟨factory, fun depot => ?_⟩
  cases act with
  | register registered given =>
    obtain ⟨rfl, given⟩ := Option.ite_none_right_eq_some.1 under
    cases given
    rfl
  | registerObject label mechanism =>
    obtain ⟨rfl, given⟩ := Option.ite_none_right_eq_some.1 under
    cases given
    rfl
  | load | unload => cases under

theorem perform_comm {left right : Act} {other : String} (first : left.Registers name)
    (second : right.Registers other) (different : name ≠ other) (depot : Depot) :
    (depot.perform left).perform right = (depot.perform right).perform left := by
  obtain ⟨factory, performed⟩ := perform_of_registers first
  obtain ⟨factory', performed'⟩ := perform_of_registers second
  have registries : (depot.registry.register name factory).register other factory' =
      (depot.registry.register other factory').register name factory := by
    refine Registry.eq_of_factories fun sought => ?_
    simp only [Registry.register, NameMap.get?_insert]
    split
    · rename_i isOther
      rw [if_neg (fun isName => different (isName.symm.trans isOther))]
    · rfl
  simp only [performed, performed', registries]

/-- What holds of a registry after these acts. -/
structure LastCounts (acts : List Act) (depot : Depot) : Prop where
  contains : ∀ name,
    depot.registry.contains name = true ↔ ∃ act ∈ acts, act.Registers name
  names : ∀ name, name ∈ depot.registry.names ↔ ∃ act ∈ acts, act.Registers name
  /-- No name is listed twice, since none stands before itself. -/
  ascending : depot.registry.names.Pairwise fun left right => Utf8.encode left < Utf8.encode right
  loads : ∀ name history,
    Registry.Loads name history (last? name acts) (depot.registry.load name history)
  calls : ∀ name history label, (depot.registry.load name history).2.calls label =
    history.calls label + if (last? name acts).map Factory.label = some label then 1 else 0
  sound : depot.history.Sound
  unreleased : ∀ (name : String) (history after : History) (provider : Provider), history.Sound →
    depot.registry.load name history = (.ok provider, after) →
      after.isReleased provider.serial = false

theorem lastCounts_after (acts : List Act) : LastCounts acts (after {} acts) := by
  have contains (name : String) :
      (after {} acts).registry.contains name = true ↔ ∃ act ∈ acts, act.Registers name := by
    rw [Registry.contains, NameMap.contains, get?_after_new, exists_last?_iff]
  refine {
    contains
    names := fun name => NameMap.mem_names.trans (contains name)
    ascending := (NameMap.ascending_names _).imp Utf8.encode_lt
    loads := fun name history => ?_
    calls := fun name history label => ?_
    sound := (sound_after sound_new acts).history
    unreleased := fun name history after provider sound loads => ?_ }
  · rw [← get?_after_new]
    exact Registry.loads ..
  · rw [Registry.calls_load, Registry.label?, get?_after_new]
  · obtain ⟨serial, entries⟩ := Registry.entries_of_loaded loads
    exact History.unreleased_of_loaded sound serial entries

/-- A registry maps each name to what was registered under it last. A load depends on nothing else
that was registered, and different names may be registered in any order. -/
theorem last_registration_counts :
    (∀ acts, LastCounts acts (after {} acts)) ∧
    (∀ acts acts' name, last? name acts = last? name acts' →
      (after {} acts).registry.load name = (after {} acts').registry.load name) ∧
    ∀ (left right : Act) (name other : String), left.Registers name → right.Registers other →
      name ≠ other → ∀ (depot : Depot) (later : List Act),
        depot.after (left :: right :: later) = depot.after (right :: left :: later) := by
  refine ⟨lastCounts_after, fun acts acts' name same => ?_, ?_⟩
  · refine Registry.load_congr ?_
    rw [get?_after_new, get?_after_new, same]
  · intro left right name other first second different depot later
    simp only [after, List.foldl_cons, perform_comm first second different]

/-- An alias, a factory that fails, and the mechanism that is registered in its place. -/
def sampleActs : List Act := [
  .register "guest" { label := 0, product := .claimed },
  .register "auth/none" { label := 1, product := .claimed, failure? := fun _ => some .noMechanism },
  .load "auth/none", .registerObject 2 .claimed, .load "auth/none", .unload 0
]

theorem last_registration_counts_sample :
    LastCounts sampleActs (after {} sampleActs) ∧
      (after {} sampleActs).registry.names = ["auth/none", "guest"] ∧
      ((after {} sampleActs).registry.load "guest" []).1 =
        .error (.loadFailed "guest" "mechanism identifies itself as auth/none") ∧
      (after {} sampleActs).registry.load "auth/none" =
        (({} : Registry).registerObject 2 .claimed).load "auth/none" ∧
      after {} sampleActs = after {} (sampleActs[1] :: sampleActs[0] :: sampleActs.drop 2) := by
  obtain ⟨counts, last, swap⟩ := last_registration_counts
  refine ⟨counts sampleActs, by decide, rfl, ?_, ?_⟩
  · exact last sampleActs [.registerObject 2 .claimed] "auth/none" rfl
  · exact swap sampleActs[0] sampleActs[1] "guest" "auth/none" ⟨_, rfl⟩ ⟨_, rfl⟩ (by decide) {}
      (sampleActs.drop 2)

end Depot

end Attest
