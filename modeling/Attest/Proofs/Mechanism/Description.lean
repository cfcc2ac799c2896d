import Attest.Proofs.Signed.Creation
import Attest.Proofs.Signed.Verification

/-!
The lines of a description. A host is shown as it stands, so a line feed in it begins a line that may
look like any other. Nothing else that is shown can break a line.
-/

namespace Attest

/-- The text consists of the lines. Each of them is ended by a line feed, and holds no other. -/
structure Lines (text : String) (lines : List String) : Prop where
  joined : text = String.join (lines.map (· ++ "\n"))
  unbroken : ∀ line ∈ lines, '\n' ∉ line.toList

namespace Lines

variable {text left right label line : String} {lines others : List String}

theorem joined_iff :
    text = String.join (lines.map (· ++ "\n")) ↔
      text.toList = (lines.map String.toList).flatMap (· ++ ['\n']) := by
  have same : (String.join (lines.map (· ++ "\n"))).toList =
      (lines.map String.toList).flatMap (· ++ ['\n']) := by
    rw [String.toList_join, List.flatMap_map, List.flatMap_map]
    simp only [String.toList_append]
    rfl
  rw [← same]
  exact String.toList_inj.symm

theorem pieces_eq (made : Lines text lines) :
    Pieces.pieces '\n' text.toList = lines.map String.toList ++ [[]] := by
  rw [joined_iff.1 made.joined]
  have unbroken := made.unbroken
  clear made
  induction lines with
  | nil => rfl
  | cons line rest ih =>
    obtain ⟨first, later⟩ := List.forall_mem_cons.1 unbroken
    rw [List.map_cons, List.flatMap_cons, List.append_assoc, List.singleton_append,
      Pieces.pieces_append_mark, Pieces.pieces_of_notMem first, ih later]
    rfl

/-- A text has its lines in one way only. -/
theorem unique (made : Lines text lines) (alsoMade : Lines text others) : lines = others := by
  have same : lines.map String.toList = others.map String.toList :=
    List.append_cancel_right (made.pieces_eq.symm.trans alsoMade.pieces_eq)
  exact (List.map_inj_right fun _ _ => String.toList_injective).1 same

theorem nil : Lines "" [] where
  joined := rfl
  unbroken := by
    intro line member
    cases member

theorem single (unbroken : '\n' ∉ line.toList) : Lines (line ++ "\n") [line] where
  joined := by simp
  unbroken := by simpa using unbroken

theorem append (front : Lines left lines) (back : Lines right others) :
    Lines (left ++ right) (lines ++ others) where
  joined := by rw [front.joined, back.joined, List.map_append, String.join_append]
  unbroken := by
    intro line member
    rcases List.mem_append.1 member with early | late
    · exact front.unbroken line early
    · exact back.unbroken line late

/-- A text breaks into lines at its line feeds. -/
def broken (text : String) : List String :=
  (Pieces.pieces '\n' text.toList).map String.ofList

theorem of_broken (text : String) : Lines (text ++ "\n") (broken text) := by
  have same : (broken text).map String.toList = Pieces.pieces '\n' text.toList := by
    simp only [broken, List.map_map, Function.comp_def, String.toList_ofList, List.map_id']
  constructor
  · rw [joined_iff, same, Pieces.flatMap_pieces, String.toList_append]
    rfl
  · intro line member
    have found : line.toList ∈ Pieces.pieces '\n' text.toList := by
      rw [← same]
      exact List.mem_map_of_mem member
    exact Pieces.notMem_of_mem_pieces found

theorem length_broken (text : String) : (broken text).length = text.toList.count '\n' + 1 := by
  rw [broken, List.length_map, Pieces.length_pieces]

theorem broken_of_notMem (unbroken : '\n' ∉ text.toList) : broken text = [text] := by
  rw [broken, Pieces.pieces_of_notMem unbroken, List.map_singleton, String.ofList_toList]

/-- What stands in front of a text stands in front of its first line. -/
theorem label_append (unbroken : '\n' ∉ label.toList) (made : Lines text (line :: lines)) :
    Lines (label ++ text) ((label ++ line) :: lines) where
  joined := by
    rw [made.joined]
    simp only [List.map_cons, String.join_cons, String.append_assoc]
  unbroken := by
    obtain ⟨first, later⟩ := List.forall_mem_cons.1 made.unbroken
    apply List.forall_mem_cons.2 ⟨?_, later⟩
    rw [String.toList_append, List.mem_append, not_or]
    exact ⟨unbroken, first⟩

theorem broken_labelled (unbroken : '\n' ∉ label.toList) (alsoUnbroken : '\n' ∉ text.toList) :
    broken (label ++ text) = [label ++ text] := by
  apply broken_of_notMem
  rw [String.toList_append, List.mem_append, not_or]
  exact ⟨unbroken, alsoUnbroken⟩

theorem eq_of_notMem (made : Lines (text ++ "\n") (line :: lines)) (unbroken : '\n' ∉ text.toList) :
    line = text ∧ lines = [] := by
  cases made.unique (single unbroken)
  exact ⟨rfl, rfl⟩

/-- Only the first line of a value stands behind the label. -/
theorem exists_broken_labelled (unbroken : '\n' ∉ label.toList) (value : String) :
    ∃ first more, broken (label ++ value) = (label ++ first) :: more ∧
      Lines (value ++ "\n") (first :: more) ∧ more.length = value.toList.count '\n' := by
  have length := length_broken value
  have made := of_broken value
  cases lines : broken value with
  | nil =>
    rw [lines] at length
    cases length
  | cons first more =>
    rw [lines] at length made
    refine ⟨first, more, ?_, made, Nat.succ.inj length⟩
    have whole := made.label_append unbroken
    rw [← String.append_assoc] at whole
    exact (of_broken _).unique whole

end Lines

namespace Description

/-- What is written of some fields, one after another. -/
def text (fields : List String) : String :=
  "BEGIN AUTHENTICATION CREDENTIAL\n" ++ String.join (fields.map (· ++ "\n")) ++
    "END AUTHENTICATION CREDENTIAL\n"

theorem lines_text (fields : List String) :
    Lines (text fields) ("BEGIN AUTHENTICATION CREDENTIAL" :: fields.flatMap Lines.broken ++
      ["END AUTHENTICATION CREDENTIAL"]) := by
  have shown : Lines (String.join (fields.map (· ++ "\n"))) (fields.flatMap Lines.broken) := by
    induction fields with
    | nil => exact .nil
    | cons field rest ih =>
      rw [List.map_cons, String.join_cons, List.flatMap_cons]
      exact (Lines.of_broken field).append ih
  have front : Lines ("BEGIN AUTHENTICATION CREDENTIAL" ++ "\n") _ := .single (by decide)
  have back : Lines ("END AUTHENTICATION CREDENTIAL" ++ "\n") _ := .single (by decide)
  exact (front.append shown).append back

theorem broken_number {label : String} (unbroken : '\n' ∉ label.toList) (number : Nat) :
    Lines.broken (label ++ toString number) = [label ++ toString number] := by
  apply Lines.broken_labelled unbroken
  intro member
  have digit : ('\n').isDigit = true :=
    Nat.isDigit_of_mem_toDigits (by decide) (by decide) (Nat.toList_repr ▸ member)
  cases digit

theorem toString_eq (text : String) : toString text = text :=
  rfl

/-- The lines that begin with the label. -/
def labelled (label : String) (lines : List String) : List String :=
  lines.filter fun line => label.toList.isPrefixOf line.toList

end Description

namespace Claim

/-- The host, or what is shown in its place. -/
def shownHost (claim : Claim) : String :=
  claim.host.getD "(unknown)"

/-- What every description of a claim shows. -/
def fields (mechanismName : String) (claim : Claim) : List String := [
  "   mechanism: " ++ mechanismName,
  "   uid: " ++ toString claim.uid.toNat,
  "   gid: " ++ toString claim.gid.toNat,
  "   host: " ++ claim.shownHost]

theorem exists_broken_fields {mechanismName : String} (unbroken : '\n' ∉ mechanismName.toList)
    (claim : Claim) :
    ∃ first more, (claim.fields mechanismName).flatMap Lines.broken = [
        "   mechanism: " ++ mechanismName,
        "   uid: " ++ toString claim.uid.toNat,
        "   gid: " ++ toString claim.gid.toNat,
        "   host: " ++ first] ++ more ∧
      Lines (claim.shownHost ++ "\n") (first :: more) ∧
      more.length = claim.shownHost.toList.count '\n' := by
  obtain ⟨first, more, host, hostLines, length⟩ :=
    Lines.exists_broken_labelled (by decide : '\n' ∉ "   host: ".toList) claim.shownHost
  refine ⟨first, more, ?_, hostLines, length⟩
  have mechanism := Lines.broken_labelled (by decide : '\n' ∉ "   mechanism: ".toList) unbroken
  have uid := Description.broken_number (by decide : '\n' ∉ "   uid: ".toList) claim.uid.toNat
  have gid := Description.broken_number (by decide : '\n' ∉ "   gid: ".toList) claim.gid.toNat
  simp only [fields, List.flatMap_cons, List.flatMap_nil, mechanism, uid, gid, host,
    List.append_nil, List.cons_append, List.nil_append]

end Claim

namespace SignedClaim

/-- What the description of a signed claim shows besides. -/
def fields (claim : SignedClaim) : List String := [
  "   created: " ++ toString claim.created.toNat,
  "   expires: " ++ toString claim.expires.toNat,
  "   verified: " ++ toString claim.verified]

theorem broken_fields (claim : SignedClaim) : claim.fields.flatMap Lines.broken = claim.fields := by
  have flag : '\n' ∉ (toString claim.verified).toList := by
    cases claim.verified <;> decide
  have created :=
    Description.broken_number (by decide : '\n' ∉ "   created: ".toList) claim.created.toNat
  have expires :=
    Description.broken_number (by decide : '\n' ∉ "   expires: ".toList) claim.expires.toNat
  have verified := Lines.broken_labelled (by decide : '\n' ∉ "   verified: ".toList) flag
  simp only [fields, List.flatMap_cons, List.flatMap_nil, created, expires, verified,
    List.append_nil, List.cons_append, List.nil_append]

end SignedClaim

theorem Claimed.describe_eq {credential : Credential} {claim : Claim}
    (held : credential.state = .claimed claim) :
    describe credential = .ok (Description.text (claim.fields mechanismName)) := by
  have opened : claim? credential = .ok claim := by rw [claim?, held]
  unfold describe
  rw [opened]
  apply congrArg Except.ok
  unfold Description.text Claim.fields Claim.shownHost
  simp only [Description.toString_eq, List.map_cons, List.map_nil, String.join_cons,
    String.join_nil, String.append_assoc, String.append_empty]

theorem Signed.describe_eq {credential : Credential} {claim : SignedClaim}
    (held : credential.state = .signed claim) :
    describe credential =
      .ok (Description.text (claim.claim.fields mechanismName ++ claim.fields)) := by
  unfold describe
  rw [claim?_of_signed held]
  apply congrArg Except.ok
  unfold Description.text Claim.fields SignedClaim.fields Claim.shownHost
  simp only [Description.toString_eq, List.map_append, List.map_cons, List.map_nil,
    String.join_append, String.join_cons, String.join_nil, String.append_assoc,
    String.append_empty]

namespace Mechanism

/-- A description has one line for each field, and one more for each line feed in the host, whose
lines stand there as they are. Whatever the host is, the last line but one that is shown of a signed
claim is labelled as the flag and shows it; but lines of the host may carry that label too. -/
theorem lines_of_print :
    (∀ (signer : Signed.Signer) (credential : Credential) (claim : SignedClaim),
      credential.state = .signed claim → ∃ text first more lines,
        (∀ sink, print credential sink (.signed signer) = sink.writeText text) ∧
        Lines text lines ∧
        lines = [
          "BEGIN AUTHENTICATION CREDENTIAL",
          "   mechanism: " ++ Signed.mechanismName,
          "   uid: " ++ toString claim.claim.uid.toNat,
          "   gid: " ++ toString claim.claim.gid.toNat,
          "   host: " ++ first] ++ more ++ [
          "   created: " ++ toString claim.created.toNat,
          "   expires: " ++ toString claim.expires.toNat,
          "   verified: " ++ toString claim.verified,
          "END AUTHENTICATION CREDENTIAL"] ∧
        lines.length = 9 + claim.claim.shownHost.toList.count '\n' ∧
        Lines (claim.claim.shownHost ++ "\n") (first :: more) ∧
        Description.labelled "   verified: " lines =
          Description.labelled "   verified: " more ++
            ["   verified: " ++ toString claim.verified] ∧
        ('\n' ∉ claim.claim.shownHost.toList → first = claim.claim.shownHost ∧ more = [])) ∧
    ∀ (credential : Credential) (claim : Claim),
      credential.state = .claimed claim → ∃ text first more lines,
        (∀ sink, print credential sink .claimed = sink.writeText text) ∧
        Lines text lines ∧
        lines = [
          "BEGIN AUTHENTICATION CREDENTIAL",
          "   mechanism: " ++ Claimed.mechanismName,
          "   uid: " ++ toString claim.uid.toNat,
          "   gid: " ++ toString claim.gid.toNat,
          "   host: " ++ first] ++ more ++ [
          "END AUTHENTICATION CREDENTIAL"] ∧
        lines.length = 6 + claim.shownHost.toList.count '\n' ∧
        Lines (claim.shownHost ++ "\n") (first :: more) ∧
        ('\n' ∉ claim.shownHost.toList → first = claim.shownHost ∧ more = []) := by
  constructor
  · intro signer credential claim held
    obtain ⟨first, more, broken, hostLines, length⟩ :=
      claim.claim.exists_broken_fields (by decide : '\n' ∉ Signed.mechanismName.toList)
    have made := Description.lines_text (claim.claim.fields Signed.mechanismName ++ claim.fields)
    rw [List.flatMap_append, broken, claim.broken_fields] at made
    refine ⟨_, first, more, _, ?_, made, ?_, ?_, hostLines, ?_, hostLines.eq_of_notMem⟩
    · intro sink
      exact congrArg sink.describe (Signed.describe_eq held)
    · simp only [SignedClaim.fields, List.cons_append, List.nil_append, List.append_assoc]
    · simp only [List.length_append, List.length_cons, List.length_nil, SignedClaim.fields]
      omega
    · simp [Description.labelled, List.isPrefixOf, SignedClaim.fields]
  · intro credential claim held
    obtain ⟨first, more, broken, hostLines, length⟩ :=
      claim.exists_broken_fields (by decide : '\n' ∉ Claimed.mechanismName.toList)
    have made := Description.lines_text (claim.fields Claimed.mechanismName)
    rw [broken] at made
    refine ⟨_, first, more, _, ?_, made, rfl, ?_, hostLines, hostLines.eq_of_notMem⟩
    · intro sink
      exact congrArg sink.describe (Claimed.describe_eq held)
    · simp only [List.length_append, List.length_cons, List.length_nil]
      omega

theorem lines_of_print_sample :
    (∃ text lines,
      (∀ sink, print Signed.sampleCredential sink (.signed Signed.sampleSigner) =
        sink.writeText text) ∧
      Lines text lines ∧ lines.length = 9 ∧
      Description.labelled "   verified: " lines = ["   verified: false"]) ∧
    ∃ text,
      (∀ sink, print { mechanismId := 100, state := .claimed ⟨7, 8, some "a\nb"⟩ } sink .claimed =
        sink.writeText text) ∧
      Lines text ["BEGIN AUTHENTICATION CREDENTIAL", "   mechanism: auth/none", "   uid: 7",
        "   gid: 8", "   host: a", "b", "END AUTHENTICATION CREDENTIAL"] := by
  obtain ⟨signed, claimed⟩ := lines_of_print
  constructor
  · obtain ⟨text, first, more, lines, prints, made, -, length, -, flags, unbroken⟩ :=
      signed Signed.sampleSigner Signed.sampleCredential Signed.sampleClaim rfl
    obtain ⟨-, rfl⟩ := unbroken (by decide +kernel)
    exact ⟨text, lines, prints, made, length, flags⟩
  · obtain ⟨text, first, more, lines, prints, made, rfl, -, hostLines, -⟩ :=
      claimed { mechanismId := 100, state := .claimed ⟨7, 8, some "a\nb"⟩ } _ rfl
    have host : Lines ("a" ++ "\n" ++ ("b" ++ "\n")) _ :=
      (Lines.single (by decide)).append (.single (by decide))
    cases hostLines.unique host
    exact ⟨text, prints, made⟩

/-- An unverified credential whose host says that it is verified, on a line of its own. -/
theorem print_forged :
    ∃ credential text,
      create (Signed.sampleSurroundings 1000) (some "user=alice,host=node01\n   verified: true")
        (.signed Signed.sampleSigner) = .ok credential ∧
      (∀ sink, print credential sink (.signed Signed.sampleSigner) = sink.writeText text) ∧
      (¬ ∃ lines, Lines text lines ∧ lines.length = 9) ∧
      ∃ lines, Lines text lines ∧ lines.length = 10 ∧
        Description.labelled "   verified: " lines =
          ["   verified: true", "   verified: false"] := by
  let info := some "user=alice,host=node01\n   verified: true"
  let claim := Signed.issue Hmac.sha256 Signed.sampleSigner 1000
    (List.replicate Signed.nonceLength 7) info { uid := 1000, gid := 100 }
  have created : create (Signed.sampleSurroundings 1000) info (.signed Signed.sampleSigner) =
      .ok { mechanismId := Signed.mechanismId, state := .signed claim } := by
    rw [create, Signed.create_ok_iff]
    exact ⟨"alice", { uid := 1000, gid := 100 }, by decide +kernel, by decide +kernel, rfl⟩
  let fields := claim.claim.fields Signed.mechanismName ++ claim.fields
  have shown : fields.flatMap Lines.broken = [
      "   mechanism: auth/hmac", "   uid: 1000", "   gid: 100", "   host: node01",
      "   verified: true", "   created: 1000", "   expires: 1010", "   verified: false"] := by
    decide +kernel
  have made := Description.lines_text fields
  rw [shown] at made
  refine ⟨_, _, created, fun sink => congrArg sink.describe (Signed.describe_eq rfl), ?_, _, made,
    rfl, by decide +kernel⟩
  rintro ⟨lines, alsoMade, nine⟩
  cases made.unique alsoMade
  cases nine

end Mechanism

end Attest
