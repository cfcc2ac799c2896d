import Attest.Mechanism
import Attest.Proofs.Options.Given
import Attest.Proofs.Text.Decimal

/-!
Which options `auth/none` creates a credential for, and what the credential claims. The last option of
a name is the only one that counts: one that is no number is an error, and nothing else is taken in
its place.
-/

namespace Attest.Claimed

open Options (Gives Omits)

theorem create_ok_iff {info : Option String} {credential : Credential} :
    create info = .ok credential ↔
      ∃ uid gid, (Options.parse info).word32? "uid" = some uid ∧
        ((Options.parse info).get? "gid").elim (some uid) Decimal.word32? = some gid ∧
        credential = {
          mechanismId
          state := .claimed { uid, gid, host := (Options.parse info).get? "host" }
        } := by
  unfold create
  cases user : (Options.parse info).word32? "uid" with
  | none => simp [user, bind, Except.bind]
  | some uid =>
    cases group : (Options.parse info).get? "gid" with
    | none =>
      simp only [user, group, bind, Except.bind, pure, Except.pure, Except.ok.injEq,
        Option.elim_none, Option.some.injEq]
      constructor
      · rintro rfl
        exact ⟨uid, uid, rfl, rfl, rfl⟩
      · rintro ⟨_, _, rfl, rfl, rfl⟩
        rfl
    | some text =>
      have read : (Options.parse info).word32? "gid" = Decimal.word32? text := by
        rw [Options.word32?, group]
        rfl
      cases number : Decimal.word32? text with
      | none => simp [user, group, read, number, bind, Except.bind]
      | some gid =>
        simp only [user, group, read, number, bind, Except.bind, pure, Except.pure,
          Except.ok.injEq, Option.elim_some, Option.some.injEq]
        constructor
        · rintro rfl
          exact ⟨uid, gid, rfl, rfl, rfl⟩
        · rintro ⟨_, _, rfl, rfl, rfl⟩
          rfl

variable {info : Option String} {claim : Claim} {key text : String}

/-- The last option of the name is a number of 32 bits. -/
def GivesNumber (info : Option String) (key : String) (word : UInt32) : Prop :=
  ∃ text, Gives info key text ∧ Decimal.Denotes text word.toNat

/-- The claim that options ask for. The user stands in for the group only if no group is given. -/
structure Asks (info : Option String) (claim : Claim) : Prop where
  uid : GivesNumber info "uid" claim.uid
  gid : GivesNumber info "gid" claim.gid ∨ Omits info "gid" ∧ claim.gid = claim.uid
  host : ∀ host, claim.host = some host ↔ Gives info "host" host

/-- No number of 32 bits is written like that. -/
def Malformed (text : String) : Prop :=
  ∀ number < UInt32.size, ¬ Decimal.Denotes text number

theorem givesNumber_iff (named : key ≠ "") {word : UInt32} :
    GivesNumber info key word ↔ (Options.parse info).word32? key = some word := by
  simp only [GivesNumber, Options.gives_iff named, Options.word32?, Option.bind_eq_some_iff,
    Decimal.word32?_eq_some_iff]

theorem not_givesNumber_of_malformed (named : key ≠ "") (given : Gives info key text)
    (malformed : Malformed text) : ¬ ∃ word, GivesNumber info key word := by
  rintro ⟨word, other, again, denotes⟩
  rw [Options.gives_iff named] at given again
  cases given.symm.trans again
  exact malformed word.toNat word.toNat_lt denotes

theorem not_omits_of_gives (named : key ≠ "") (given : Gives info key text) :
    ¬ Omits info key := by
  rw [Options.gives_iff named] at given
  rw [Options.omits_iff named, given]
  exact Option.some_ne_none text

theorem gid_iff {uid gid : UInt32} :
    GivesNumber info "gid" gid ∨ Omits info "gid" ∧ gid = uid ↔
      ((Options.parse info).get? "gid").elim (some uid) Decimal.word32? = some gid := by
  rw [givesNumber_iff (by decide), Options.omits_iff (by decide), Options.word32?]
  cases (Options.parse info).get? "gid" with
  | none => simp [eq_comm]
  | some text => simp

theorem asks_iff :
    Asks info claim ↔ (Options.parse info).word32? "uid" = some claim.uid ∧
      ((Options.parse info).get? "gid").elim (some claim.uid) Decimal.word32? = some claim.gid ∧
      claim.host = (Options.parse info).get? "host" := by
  rw [← givesNumber_iff (by decide), ← gid_iff]
  constructor
  · rintro ⟨uid, gid, host⟩
    refine ⟨uid, gid, Option.ext fun name => ?_⟩
    rw [host, Options.gives_iff (by decide)]
  · rintro ⟨uid, gid, host⟩
    refine ⟨uid, gid, fun name => ?_⟩
    rw [host, Options.gives_iff (by decide)]

theorem create_ok_iff_asks {credential : Credential} :
    create info = .ok credential ↔
      ∃ claim, Asks info claim ∧ credential = { mechanismId, state := .claimed claim } := by
  rw [create_ok_iff]
  constructor
  · rintro ⟨uid, gid, user, group, rfl⟩
    exact ⟨_, asks_iff.2 ⟨user, group, rfl⟩, rfl⟩
  · rintro ⟨claim, asks, rfl⟩
    obtain ⟨user, group, host⟩ := asks_iff.1 asks
    refine ⟨claim.uid, claim.gid, user, group, ?_⟩
    rw [← host]

theorem exists_asks_iff :
    (∃ claim, Asks info claim) ↔ (∃ uid, GivesNumber info "uid" uid) ∧
      (Omits info "gid" ∨ ∃ gid, GivesNumber info "gid" gid) := by
  constructor
  · rintro ⟨claim, uid, gid | ⟨omitted, -⟩, -⟩
    · exact ⟨⟨_, uid⟩, .inr ⟨_, gid⟩⟩
    · exact ⟨⟨_, uid⟩, .inl omitted⟩
  · have host (name : String) :
        (Options.parse info).get? "host" = some name ↔ Gives info "host" name :=
      (Options.gives_iff (by decide)).symm
    rintro ⟨⟨uid, user⟩, omitted | ⟨gid, group⟩⟩
    · exact ⟨⟨uid, uid, _⟩, user, .inr ⟨omitted, rfl⟩, host⟩
    · exact ⟨⟨uid, gid, _⟩, user, .inl group, host⟩

/-- The user is looked at first. -/
theorem create_of_userless (userless : ¬ ∃ uid, GivesNumber info "uid" uid) :
    create info = .error (.badArgument "auth/none requires a numeric uid") := by
  have unread : (Options.parse info).word32? "uid" = none := by
    rw [Option.eq_none_iff_forall_ne_some]
    intro uid read
    exact userless ⟨uid, (givesNumber_iff (by decide)).2 read⟩
  simp only [create, unread]
  rfl

theorem create_of_groupless {uid : UInt32} (user : GivesNumber info "uid" uid)
    (groupless : ¬ (Omits info "gid" ∨ ∃ gid, GivesNumber info "gid" gid)) :
    create info = .error (.badArgument "gid must be numeric") := by
  obtain ⟨given, unread⟩ := not_or.1 groupless
  rw [Options.omits_iff (by decide), ← Ne, Option.ne_none_iff_exists'] at given
  obtain ⟨text, given⟩ := given
  have read : (Options.parse info).word32? "gid" = none := by
    rw [Option.eq_none_iff_forall_ne_some]
    intro gid read
    exact unread ⟨gid, (givesNumber_iff (by decide)).2 read⟩
  rw [givesNumber_iff (by decide)] at user
  simp only [create, user, given, read]
  rfl

/-- A credential is created exactly if the last option for the user is a number of 32 bits and the
last one for the group is another, or there is none for the group. It claims these numbers and the
last host. All other options are refused, also those that hold such numbers further in front. -/
theorem create_claims_asked (surroundings : Surroundings) (info : Option String) :
    let created := Mechanism.create surroundings info .claimed
    (∀ credential, created = .ok credential ↔
      ∃ claim, Asks info claim ∧ credential = { mechanismId, state := .claimed claim }) ∧
    ((∃ claim, Asks info claim) ↔ (∃ uid, GivesNumber info "uid" uid) ∧
      (Omits info "gid" ∨ ∃ gid, GivesNumber info "gid" gid)) ∧
    ((¬ ∃ uid, GivesNumber info "uid" uid) →
      created = .error (.badArgument "auth/none requires a numeric uid")) ∧
    ((∃ uid, GivesNumber info "uid" uid) →
      ¬ (Omits info "gid" ∨ ∃ gid, GivesNumber info "gid" gid) →
      created = .error (.badArgument "gid must be numeric")) ∧
    (∀ text, Gives info "uid" text → Malformed text →
      created = .error (.badArgument "auth/none requires a numeric uid")) ∧
    ∀ text, Gives info "gid" text → Malformed text →
      ∃ reason, created = .error (.badArgument reason) := by
  refine ⟨fun _ => create_ok_iff_asks, exists_asks_iff, create_of_userless, ?_, ?_, ?_⟩
  · rintro ⟨uid, user⟩ groupless
    exact create_of_groupless user groupless
  · intro text given malformed
    exact create_of_userless (not_givesNumber_of_malformed (by decide) given malformed)
  · intro text given malformed
    have groupless : ¬ (Omits info "gid" ∨ ∃ gid, GivesNumber info "gid" gid) := by
      rw [not_or]
      exact ⟨not_omits_of_gives (by decide) given,
        not_givesNumber_of_malformed (by decide) given malformed⟩
    by_cases user : ∃ uid, GivesNumber info "uid" uid
    · obtain ⟨uid, user⟩ := user
      exact ⟨_, create_of_groupless user groupless⟩
    · exact ⟨_, create_of_userless user⟩

/-- A number with a sign and zeros in front of it, a group without a value behind a good one, and a
user that does not fit. -/
theorem create_claims_asked_sample :
    let created := fun text => Mechanism.create { wallTime := 0 } (some text) .claimed
    created "uid=1,host=a,UID = +0042 ,Host=" =
        .ok { mechanismId, state := .claimed { uid := 42, gid := 42, host := some "" } } ∧
      created "uid=1,gid=2, GID" = .error (.badArgument "gid must be numeric") ∧
      created "uid=1,uid=4294967296" =
        .error (.badArgument "auth/none requires a numeric uid") := by
  intro created
  refine ⟨?_, ?_, ?_⟩
  · obtain ⟨accepted, -⟩ := create_claims_asked { wallTime := 0 }
      (some "uid=1,host=a,UID = +0042 ,Host=")
    refine (accepted _).2 ⟨_, asks_iff.2 ⟨?_, ?_, ?_⟩, rfl⟩ <;> decide +kernel
  · obtain ⟨-, -, -, groupless, -⟩ := create_claims_asked { wallTime := 0 }
      (some "uid=1,gid=2, GID")
    refine groupless ⟨1, (givesNumber_iff (by decide)).2 (by decide +kernel)⟩ (not_or.2 ?_)
    have given : Gives (some "uid=1,gid=2, GID") "gid" "" :=
      (Options.gives_iff (by decide)).2 (by decide +kernel)
    exact ⟨not_omits_of_gives (by decide) given, not_givesNumber_of_malformed (by decide) given
      (Decimal.word32?_eq_none_iff.1 (by decide +kernel))⟩
  · obtain ⟨-, -, -, -, userless, -⟩ := create_claims_asked { wallTime := 0 }
      (some "uid=1,uid=4294967296")
    refine userless "4294967296" ((Options.gives_iff (by decide)).2 (by decide +kernel)) ?_
    exact Decimal.word32?_eq_none_iff.1 (by decide +kernel)

end Attest.Claimed
