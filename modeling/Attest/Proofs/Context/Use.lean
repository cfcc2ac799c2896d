import Attest.Proofs.Context.Dispatch

/-!
What can be asked of a credential that is held, of a mechanism itself or through a context. A context
with an active provider passes everything on to the provider's mechanism; only what it packs stands in
an envelope.
-/

namespace Attest

inductive Use where
  | verify
  | uid
  | gid
  | host
  | lastError
  | pack (version : Version) (buffer : Bytes)
  | print (sink : Sink)

namespace Use

inductive Answer where
  | done (outcome : Except AuthError Unit)
  | number (value : UInt32)
  | text (value : Option String)
  | code (value : ErrorCode)
  | packed (outcome : Except AuthError Unit) (buffer : Bytes)
  | printed (outcome : Except AuthError Unit) (sink : Sink)

/-- Has a mechanism answer. The mechanism itself packs alike for all versions. -/
def ask (surroundings : Surroundings) (mechanism : Mechanism) (credential : Credential) :
    Use → Answer × Credential
  | .verify =>
    let (outcome, credential) := mechanism.verify surroundings credential
    (.done outcome, credential)
  | .uid =>
    let (value, credential) := mechanism.uid credential
    (.number value, credential)
  | .gid =>
    let (value, credential) := mechanism.gid credential
    (.number value, credential)
  | .host =>
    let (value, credential) := mechanism.host credential
    (.text value, credential)
  | .lastError => (.code (mechanism.lastError credential), credential)
  | .pack _ buffer =>
    let (outcome, buffer) := mechanism.pack credential buffer
    (.packed outcome buffer, credential)
  | .print sink =>
    let (outcome, sink) := mechanism.print credential sink
    (.printed outcome sink, credential)

theorem answer_verify (surroundings : Surroundings) (mechanism : Mechanism)
    (credential : Credential) :
    (Use.verify.ask surroundings mechanism credential).1 =
      .done (mechanism.verify surroundings credential).1 :=
  rfl

def request (surroundings : Surroundings) (site : Site) (credential : Credential) :
    Use → (Answer × Credential) × Site
  | .verify =>
    let ((outcome, credential), site) := site.verify surroundings credential
    ((.done outcome, credential), site)
  | .uid =>
    let ((value, credential), site) := site.uid credential
    ((.number value, credential), site)
  | .gid =>
    let ((value, credential), site) := site.gid credential
    ((.number value, credential), site)
  | .host =>
    let ((value, credential), site) := site.host credential
    ((.text value, credential), site)
  | .lastError =>
    let (value, site) := site.lastError credential
    ((.code value, credential), site)
  | .pack version buffer =>
    let ((outcome, buffer), site) := site.pack version credential buffer
    ((.packed outcome buffer, credential), site)
  | .print sink =>
    let ((outcome, sink), site) := site.print credential sink
    ((.printed outcome sink, credential), site)

variable {site : Site} {provider : Provider}

theorem context_request (active : site.context.active = some provider)
    (surroundings : Surroundings) (credential : Credential) (use : Use) :
    (use.request surroundings site credential).2.context = site.context := by
  cases use with
  | verify => simp only [request, Site.verify, Site.dispatch_of_active active]
  | uid => simp only [request, Site.uid, Site.dispatch_of_active active]
  | gid => simp only [request, Site.gid, Site.dispatch_of_active active]
  | host => simp only [request, Site.host, Site.dispatch_of_active active]
  | lastError => simp only [request, Site.lastError, Site.dispatch_of_active active]
  | pack version buffer => simp only [request, Site.pack, Site.dispatch_of_active active]
  | print sink => simp only [request, Site.print, Site.dispatch_of_active active]

theorem request_eq_ask (active : site.context.active = some provider)
    (surroundings : Surroundings) (credential : Credential) {use : Use}
    (plain : ∀ version buffer, use ≠ .pack version buffer) :
    (use.request surroundings site credential).1 =
      use.ask surroundings provider.mechanism credential := by
  cases use with
  | verify =>
    simp only [request, Site.verify, Site.dispatch_of_active active]
    rfl
  | uid =>
    simp only [request, Site.uid, Site.dispatch_of_active active]
    rfl
  | gid =>
    simp only [request, Site.gid, Site.dispatch_of_active active]
    rfl
  | host =>
    simp only [request, Site.host, Site.dispatch_of_active active]
    rfl
  | lastError =>
    simp only [request, Site.lastError, Site.dispatch_of_active active]
    rfl
  | pack version buffer => exact absurd rfl (plain version buffer)
  | print sink =>
    simp only [request, Site.print, Site.dispatch_of_active active]
    rfl

end Use

end Attest
