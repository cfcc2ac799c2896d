import Attest.Proofs.Context.Packing
import Attest.Proofs.Signed.Lifetime
import Attest.Proofs.Signed.Release

/-!
Credentials that a mechanism of another kind is asked about. `auth/none` and `auth/hmac` refuse them
and leave no trace, neither in the credential nor in what is packed or printed, so that all others are
told what they would have been told without these questions.
-/

namespace Attest

namespace Mechanism

/-- The mechanism is one of the two that refuse credentials of another kind, and this one is. The
number that it goes by does not matter. -/
structure Disowns (mechanism : Mechanism) (credential : Credential) : Prop where
  refuses : mechanism.kind = .claimed ∨ mechanism.kind = .signed
  foreign : credential.state.maker? ≠ some mechanism.kind

def refusal (mechanism : Mechanism) : AuthError :=
  .badArgument ("credential not created by " ++ mechanism.name)

variable {mechanism : Mechanism} {credential left right : Credential}

theorem Disowns.of_maker (disowns : mechanism.Disowns left)
    (same : right.state.maker? = left.state.maker?) : mechanism.Disowns right where
  refuses := disowns.refuses
  foreign := same ▸ disowns.foreign

end Mechanism

namespace Use

/-- What is answered about a credential that the mechanism refuses. The buffer or sink goes back as it
came. -/
def refusal (mechanism : Mechanism) : Use → Answer
  | .verify => .done (.error mechanism.refusal)
  | .uid | .gid => .number nobody
  | .host => .text none
  | .lastError => .code .badArgument
  | .pack _ buffer => .packed (.error mechanism.refusal) buffer
  | .print sink => .printed (.error mechanism.refusal) sink

/-- Nothing is packed for a version that is too old. -/
def Supported : Use → Prop
  | .pack version _ => Version.oldest.number ≤ version.number
  | _ => True

variable {mechanism : Mechanism} {provider : Provider} {credential : Credential}

theorem ask_of_disowned (disowns : mechanism.Disowns credential) (surroundings : Surroundings)
    (use : Use) : use.ask surroundings mechanism credential = (use.refusal mechanism, credential) := by
  obtain ⟨refuses, foreign⟩ := disowns
  obtain ⟨mechanismId, state⟩ := credential
  cases mechanism with
  | claimed =>
    cases state with
    | claimed claim => exact absurd rfl foreign
    | _ => cases use <;> rfl
  | signed signer =>
    cases state with
    | signed claim => exact absurd rfl foreign
    | _ => cases use <;> rfl
  | rehearsal setup => rcases refuses with impossible | impossible <;> cases impossible
  | bearer setup => rcases refuses with impossible | impossible <;> cases impossible

/-- The envelope is in the buffer already when the mechanism refuses, and is taken out again. -/
theorem pack_of_disowned (disowns : provider.mechanism.Disowns credential) {version : Version}
    (supported : Version.oldest.number ≤ version.number) (buffer : Bytes) (history : History) :
    (provider.pack version credential buffer history).1 =
      (.error provider.mechanism.refusal, buffer) := by
  have refused (begun : Bytes) : provider.mechanism.pack credential begun =
      (.error provider.mechanism.refusal, begun) := by
    have asked := ask_of_disowned disowns { wallTime := 0 } (.pack version begun)
    rcases packed : provider.mechanism.pack credential begun with ⟨outcome, after⟩
    simp only [ask, packed] at asked
    cases asked
    rfl
  obtain old | ⟨envelope, selects⟩ := version.old_or_selects
  · exact absurd supported (UInt16.not_le.2 old)
  · rw [Provider.pack, selects.envelope_eq]
    apply Packer.behind_of_error
    rw [refused, List.append_nil]

/-- A provider answers for its mechanism in all but packing. -/
theorem packs_or_asks (use : Use) :
    (∃ version buffer, use = .pack version buffer) ∨
      ∀ surroundings credential (provider : Provider),
        use.answer surroundings credential provider =
          use.ask surroundings provider.mechanism credential := by
  cases use with
  | pack version buffer => exact .inl ⟨version, buffer, rfl⟩
  | _ => exact .inr fun _ _ _ => rfl

theorem answer_of_disowned (disowns : provider.mechanism.Disowns credential)
    (surroundings : Surroundings) {use : Use} (supported : use.Supported) :
    use.answer surroundings credential provider = (use.refusal provider.mechanism, credential) := by
  obtain ⟨version, buffer, rfl⟩ | asks := use.packs_or_asks
  · simp only [answer, pack_of_disowned disowns supported, refusal]
  · rw [asks, ask_of_disowned disowns]

/-- Also under a version that is too old. -/
theorem credential_of_disowned (disowns : provider.mechanism.Disowns credential)
    (surroundings : Surroundings) (use : Use) :
    (use.answer surroundings credential provider).2 = credential := by
  obtain ⟨version, buffer, rfl⟩ | asks := use.packs_or_asks
  · rfl
  · rw [asks, ask_of_disowned disowns]

/-- A credential stays one of its kind, whatever mechanism is asked about it. -/
theorem maker_answer (surroundings : Surroundings) (credential : Credential) (use : Use)
    (provider : Provider) :
    (use.answer surroundings credential provider).2.state.maker? = credential.state.maker? := by
  obtain ⟨version, buffer, rfl⟩ | asks := use.packs_or_asks
  · rfl
  · rw [asks]
    cases provider.mechanism with
    | signed signer =>
      rw [← Credential.State.maker?_received, Signed.received_ask,
        Credential.State.maker?_received]
    | _ => cases use <;> rfl

theorem maker_request (surroundings : Surroundings) (site : Site) (credential : Credential)
    (use : Use) :
    (use.request surroundings site credential).1.2.state.maker? = credential.state.maker? := by
  obtain answered | ⟨provider, answered⟩ :=
    (use.serves surroundings credential).fallback_or_value site
  · rw [answered]
    cases use <;> rfl
  · rw [answered]
    exact maker_answer surroundings credential use provider

end Use

/-- Questions to a mechanism make no difference to loading. -/
theorem Provider.alike_of_asked {provider : Provider} {events : List Event}
    (asked : provider.Asked events) (history : History) :
    History.Alike (events ++ history) history where
  calls := Request.calls_append (Request.uncalled_of_asked asked) history
  nextSerial := by
    have unloaded : List.countP History.isLoad events = 0 := by
      rw [List.countP_eq_zero]
      intro event member
      obtain ⟨operation, rfl⟩ := asked event member
      exact Bool.false_ne_true
    rw [History.nextSerial, List.countP_append, unloaded, Nat.zero_add, History.nextSerial]

namespace Site

structure Alike (left right : Site) : Prop where
  context : left.context = right.context
  history : left.history.Alike right.history

variable {left right : Site}

theorem ensure_alike (alike : left.Alike right) (requested : Option String) :
    (left.ensure requested).1 = (right.ensure requested).1 ∧
      (left.ensure requested).2.Alike (right.ensure requested).2 := by
  obtain ⟨context, history⟩ := left
  obtain ⟨_, other⟩ := right
  cases alike.context
  cases active : context.active with
  | some provider =>
    rw [ensure_of_active active, ensure_of_active active]
    exact ⟨rfl, alike⟩
  | none =>
    obtain ⟨same, after⟩ := Registry.load_alike alike.history context.registry
      (requested.getD context.defaultName)
    simp only [ensure, active]
    rcases first : context.registry.load (requested.getD context.defaultName) history with
      ⟨outcome, history⟩
    rcases second : context.registry.load (requested.getD context.defaultName) other with ⟨_, other⟩
    simp only [first, second] at same after
    subst same
    cases outcome with
    | error cause => exact ⟨rfl, rfl, after⟩
    | ok provider => exact ⟨rfl, rfl, after⟩

/-- What the histories differ in is of no consequence to what is answered. -/
theorem Serves.alike {operation : Site → α × Site} {fallback : α} {value : Provider → α}
    (serves : Serves operation fallback value) (alike : left.Alike right) :
    (operation left).1 = (operation right).1 ∧ (operation left).2.Alike (operation right).2 := by
  obtain ⟨answer, rfl, answers⟩ := serves
  obtain ⟨same, after⟩ := ensure_alike alike none
  unfold dispatch
  rcases first : left.ensure none with ⟨outcome, left⟩
  rcases second : right.ensure none with ⟨_, right⟩
  simp only [first, second] at same after
  subst same
  cases outcome with
  | error cause => exact ⟨rfl, after⟩
  | ok provider =>
    obtain ⟨events, -, answered⟩ := answers provider
    change (answer provider left.history).1 = (answer provider right.history).1 ∧
      Site.Alike { left with history := (answer provider left.history).2 }
        { right with history := (answer provider right.history).2 }
    rw [answered, answered]
    exact ⟨rfl, after.context, after.history.append events⟩

end Site

namespace Signed.Sharing

variable {sharing whole own : Sharing} {outside : Nat → Bool} {request : Request}

/-- The mechanisms of these contexts are at hand, and refuse the credential. -/
def Excludes (sharing : Sharing) (outside : Nat → Bool) : Prop :=
  ∀ caller, outside caller = true → ∃ provider, (sharing.contexts caller).active = some provider ∧
    provider.mechanism.Disowns sharing.credential

/-- What comes of a request, with the site of its caller. -/
def outcome (sharing : Sharing) (request : Request) : (Use.Answer × Credential) × Site :=
  request.use.request request.surroundings (sharing.site request.caller) sharing.credential

theorem perform_eq (sharing : Sharing) (request : Request) :
    sharing.perform request = {
      contexts := fun caller => if caller = request.caller then (sharing.outcome request).2.context
        else sharing.contexts caller
      history := (sharing.outcome request).2.history
      credential := (sharing.outcome request).1.2
      exchanges := {
        caller := request.caller
        use := request.use
        answer := (sharing.outcome request).1.1
      } :: sharing.exchanges
    } :=
  rfl

theorem excludes_perform (excludes : sharing.Excludes outside) (request : Request) :
    (sharing.perform request).Excludes outside := by
  intro caller isOutside
  obtain ⟨provider, active, disowns⟩ := excludes caller isOutside
  refine ⟨provider, ?_, disowns.of_maker ?_⟩
  · rw [contexts_perform active]
    exact active
  · rw [perform_eq]
    exact Use.maker_request ..

/-- The runs differ in nothing but what has been asked by the contexts outside. -/
structure Similar (outside : Nat → Bool) (whole own : Sharing) : Prop where
  contexts : whole.contexts = own.contexts
  history : whole.history.Alike own.history
  credential : whole.credential = own.credential
  exchanges : whole.exchanges.filter (fun exchange => !outside exchange.caller) = own.exchanges

/-- A question of a context outside leaves all as it was, but for its mark in the history. -/
theorem similar_excluded (similar : Similar outside whole own) (excludes : whole.Excludes outside)
    (excluded : outside request.caller = true) : Similar outside (whole.perform request) own := by
  obtain ⟨provider, active, disowns⟩ := excludes request.caller excluded
  have ready : (whole.site request.caller).context.active = some provider := active
  obtain ⟨events, asked, answered⟩ :=
    (request.use.serves request.surroundings whole.credential).run_of_active ready
  have contexts : (whole.perform request).contexts = whole.contexts := by
    funext caller
    by_cases same : caller = request.caller
    · rw [same, contexts_perform active]
    · exact if_neg same
  refine ⟨contexts.trans similar.contexts, ?_, ?_, ?_⟩ <;> rw [perform_eq, outcome, answered]
  · exact (Provider.alike_of_asked asked _).trans similar.history
  · exact (Use.credential_of_disowned disowns ..).trans similar.credential
  · rw [List.filter_cons_of_neg (by simp [excluded])]
    exact similar.exchanges

theorem similar_included (similar : Similar outside whole own)
    (included : outside request.caller = false) :
    Similar outside (whole.perform request) (own.perform request) := by
  have alike : (whole.site request.caller).Alike (own.site request.caller) := {
    context := congrFun similar.contexts request.caller
    history := similar.history
  }
  obtain ⟨same, after⟩ :=
    (request.use.serves request.surroundings whole.credential).alike alike
  have answered : (whole.outcome request).1 = (own.outcome request).1 := by
    rw [outcome, outcome, ← similar.credential]
    exact same
  have left : (whole.outcome request).2.Alike (own.outcome request).2 := by
    rw [outcome, outcome, ← similar.credential]
    exact after
  rw [perform_eq, perform_eq, answered, left.context, similar.contexts]
  constructor
  · rfl
  · exact left.history
  · rfl
  · rw [List.filter_cons_of_pos (by simp [included]), similar.exchanges]

theorem similar_run (similar : Similar outside whole own) (excludes : whole.Excludes outside)
    (requests : List Request) :
    Similar outside (whole.run requests)
      (own.run (requests.filter fun request => !outside request.caller)) := by
  induction requests generalizing whole own with
  | nil => exact similar
  | cons request later ih =>
    have excludes' := excludes_perform excludes request
    cases inside : outside request.caller with
    | true =>
      rw [List.filter_cons_of_neg (by simp [inside])]
      exact ih (similar_excluded similar excludes inside) excludes'
    | false =>
      rw [List.filter_cons_of_pos (by simp [inside])]
      exact ih (similar_included similar inside) excludes'

/-- The contexts outside stand as they stood, and have been refused whatever they asked. -/
structure Kept (contexts : Nat → Context) (outside : Nat → Bool) (sharing : Sharing) : Prop where
  excludes : sharing.Excludes outside
  unmoved : ∀ caller, outside caller = true → sharing.contexts caller = contexts caller
  refused : ∀ exchange ∈ sharing.exchanges, outside exchange.caller = true →
    exchange.use.Supported → ∃ provider, (contexts exchange.caller).active = some provider ∧
      exchange.answer = exchange.use.refusal provider.mechanism

theorem kept_perform {contexts : Nat → Context} (kept : Kept contexts outside sharing)
    (request : Request) : Kept contexts outside (sharing.perform request) where
  excludes := excludes_perform kept.excludes request
  unmoved := by
    intro caller excluded
    obtain ⟨provider, active, -⟩ := kept.excludes caller excluded
    exact (contexts_perform active request).trans (kept.unmoved caller excluded)
  refused := by
    rw [perform_eq]
    apply List.forall_mem_cons.2 ⟨?_, kept.refused⟩
    intro excluded supported
    obtain ⟨provider, active, disowns⟩ := kept.excludes request.caller excluded
    refine ⟨provider, kept.unmoved request.caller excluded ▸ active, ?_⟩
    have ready : (sharing.site request.caller).context.active = some provider := active
    obtain ⟨events, -, answered⟩ :=
      (request.use.serves request.surroundings sharing.credential).run_of_active ready
    simp only [outcome, answered, Use.answer_of_disowned disowns request.surroundings supported]

theorem kept_run {contexts : Nat → Context} (kept : Kept contexts outside sharing)
    (requests : List Request) : Kept contexts outside (sharing.run requests) := by
  induction requests generalizing sharing with
  | nil => exact kept
  | cons request later ih => exact ih (kept_perform kept request)

end Signed.Sharing

open Signed (Sharing)

/-- A context with `auth/none` or `auth/hmac` refuses a credential of another kind, whatever number it
goes by, and leaves it, the buffer, and the sink as they are. Such contexts may ask about it as often
as they like in between: all others are told the same as if they had never asked, and the credential
is left the same, with all that its holder has learned about it. -/
theorem outsiders_leave_no_trace :
    (∀ (site : Site) (provider : Provider) (credential : Credential)
      (surroundings : Surroundings) (use : Use), site.context.active = some provider →
      provider.mechanism.Disowns credential → use.Supported →
      (use.request surroundings site credential).1 = (use.refusal provider.mechanism, credential) ∧
      (use.request surroundings site credential).2.context = site.context) ∧
    ∀ (contexts : Nat → Context) (history : History) (credential : Credential)
      (outside : Nat → Bool),
      (∀ caller, outside caller = true → ∃ provider, (contexts caller).active = some provider ∧
        provider.mechanism.Disowns credential) → ∀ requests : List Signed.Request,
      let start : Sharing := { contexts, history, credential }
      let whole := start.run requests
      let own := start.run (requests.filter fun request => !outside request.caller)
      whole.credential = own.credential ∧
      (whole.exchanges.filter fun exchange => !outside exchange.caller) = own.exchanges ∧
      ∀ exchange ∈ whole.exchanges, outside exchange.caller = true → exchange.use.Supported →
        ∃ provider, (contexts exchange.caller).active = some provider ∧
          exchange.answer = exchange.use.refusal provider.mechanism := by
  constructor
  · intro site provider credential surroundings use active disowns supported
    obtain ⟨events, -, answered⟩ := (use.serves surroundings credential).run_of_active active
    constructor
    · simp only [answered, Use.answer_of_disowned disowns surroundings supported]
    · exact Use.context_request active surroundings credential use
  · intro contexts history credential outside excludes requests start whole own
    have similar : start.Similar outside start :=
      { contexts := rfl, history := .refl history, credential := rfl, exchanges := rfl }
    have kept : start.Kept contexts outside :=
      { excludes, unmoved := fun _ _ => rfl, refused := List.forall_mem_nil _ }
    have same := Sharing.similar_run similar excludes requests
    exact ⟨same.credential, same.exchanges, (Sharing.kept_run kept requests).refused⟩

namespace Signed.Sharing

/-- A node that has a key, and others that have nothing but `auth/none`. -/
def sampleMixed : Sharing where
  contexts := fun caller =>
    if caller = 0 then .ofMechanism (.signed sampleSigner) else .ofMechanism .claimed
  history := []
  credential := sampleCredential

def sampleVerification : Request where
  caller := 0
  surroundings := sampleSurroundings 1010
  use := .verify

def sampleInterlude : List Request := [
  { caller := 1, surroundings := sampleSurroundings 1010, use := .uid },
  sampleVerification,
  { caller := 1, surroundings := sampleSurroundings 1010, use := .verify }
]

theorem run_sampleVerification :
    (sampleMixed.run [sampleVerification]).credential =
      sampleCredential.withClaim { sampleClaim with verified := true, lastError := 0 } ∧
    (sampleMixed.run [sampleVerification]).exchanges =
      [{ caller := 0, use := .verify, answer := .done (.ok ()) }] := by
  have active : (sampleMixed.contexts 0).active = some (.ofMechanism (.signed sampleSigner)) := rfl
  have verified : verify Hmac.sha256 sampleSigner
      ((sampleSurroundings 1010).now sampleSigner.clock) sampleMixed.credential = _ := verify_sample
  -- Rewriting step by step leaves the digests alone, which are long to compute.
  rw [run_cons, run_nil, sampleVerification, credential_verify active rfl,
    exchanges_verify active rfl, verified]
  exact ⟨rfl, rfl⟩

end Signed.Sharing

/-- Also a credential that bears the number of `auth/none` is refused there. -/
theorem outsiders_leave_no_trace_sample :
    let posing : Credential := { mechanismId := Claimed.mechanismId, state := .text "ticket" }
    ((Use.pack .oldest [7]).request (Signed.sampleSurroundings 1010) (Sharing.sampleMixed.site 1)
      posing).1 =
      (.packed (.error (.badArgument "credential not created by auth/none")) [7], posing) ∧
    (Sharing.sampleMixed.run Sharing.sampleInterlude).credential =
      Signed.sampleCredential.withClaim
        { Signed.sampleClaim with verified := true, lastError := 0 } ∧
    ((Sharing.sampleMixed.run Sharing.sampleInterlude).exchanges.filter fun exchange =>
      !(exchange.caller != 0)) =
      [{ caller := 0, use := .verify, answer := .done (.ok ()) }] := by
  intro posing
  obtain ⟨alone, together⟩ := outsiders_leave_no_trace
  have refused := (alone (Sharing.sampleMixed.site 1) (.ofMechanism .claimed) posing
    (Signed.sampleSurroundings 1010) (.pack .oldest [7]) rfl
    { refuses := .inl rfl, foreign := by decide } (UInt16.le_refl _)).1
  have excludes : ∀ caller, (caller != 0) = true → ∃ provider,
      (Sharing.sampleMixed.contexts caller).active = some provider ∧
        provider.mechanism.Disowns Sharing.sampleMixed.credential := by
    intro caller outside
    refine ⟨.ofMechanism .claimed, ?_, { refuses := .inl rfl, foreign := by decide }⟩
    simp only [Sharing.sampleMixed, if_neg (bne_iff_ne.1 outside)]
    rfl
  obtain ⟨credential, exchanges, -⟩ :=
    together Sharing.sampleMixed.contexts [] _ _ excludes Sharing.sampleInterlude
  have own : Sharing.sampleInterlude.filter (fun request => !(request.caller != 0)) =
      [Sharing.sampleVerification] := by
    simp [Sharing.sampleInterlude, Sharing.sampleVerification]
  rw [own] at credential exchanges
  exact ⟨refused, credential.trans Sharing.run_sampleVerification.1,
    exchanges.trans Sharing.run_sampleVerification.2⟩

end Attest
