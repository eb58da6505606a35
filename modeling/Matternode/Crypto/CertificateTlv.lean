/-
  File:      Matternode/Crypto/CertificateTlv.lean
  Subject:   CertificateTlv.decode: an X.509 certificate made of a certificate in TLV.

  The ids of subject and issuer go into their names as hexadecimal digits, as many as a number has.

  * `X509`, `TextHost` -- the packages, and what ECMAScript leaves to the host;
  * `MapTagStructure`, `MapTagDn`, … -- the tables of the class;
  * `decodeNames`, `decodeExtensions`, `decode` -- the code;
  * `IsNoc` -- a certificate of a node: the ids it holds; `isNoc_wideNoc` -- in any width;
  * `decodeNames_noc` -- the names it gets; `names_of_ids` -- they depend on the ids alone;
  * `decode_creates` -- the certificate that is answered has them;
  * `carriesFullWidth_iff` -- **its names carry 16 digits for each id exactly when** no id has fewer.
-/
import Mathlib.Data.Nat.Digits.Lemmas
import Matternode.Js.Json
import Matternode.Js.Property
import Matternode.Platform.PersistantStore
import Matternode.Tlv.Grammar
import Matternode.Tlv.Names
import Matternode.Tlv.RoundTrip

namespace Matternode.Crypto.CertificateTlv

open Base Js Tlv Tlv.Parser
open Platform (radixDigits)

/-! ## 1. The packages -/

/-- What ECMAScript leaves to the implementation or to Unicode: the digits of numbers that are not
    exact in the radix, and the capitals beyond ASCII. -/
structure TextHost where
  radixText : Number → Nat → String
  capitals : String → String

/-- A name: object identifiers, each with its `utf8String`s. -/
abbrev JsonName := List (String × List String)

/-- The argument of `X509CertificateGenerator.create`. The two dates are the numbers `new Date` is
    given. -/
structure CertificateParams (Key Extension : Type) where
  serialNumber : String
  subject : JsonName
  issuer : JsonName
  notBefore : Number
  notAfter : Number
  extensions : List Extension
  publicKey : Key
  signature : JsValue

/-- SubtleCrypto and `@peculiar/x509`; every call may throw. -/
structure X509 (Key Extension Cert : Type) where
  importKey : JsValue → Except JsError Key
  exportKey : Key → Except JsError Unit
  basicConstraints : JsValue → JsValue → Except JsError Extension
  keyUsages : JsValue → Except JsError Extension
  extendedKeyUsage : List (Option String) → Except JsError Extension
  subjectKeyIdentifier : String → Except JsError Extension
  authorityKeyIdentifier : String → Except JsError Extension
  create : CertificateParams Key Extension → Except JsError Cert

/-! ## 2. The tables -/

def MapTagStructure : TagMap where
  rows := [(1, "SerialNumber"), (2, "SignatureAlgorithm"), (3, "Issuer"), (4, "NotBefore"),
    (5, "NotAfter"), (6, "Subject"), (7, "PublicKeyAlgorithm"), (8, "EllipticCurveId"),
    (9, "PublicKey"), (10, "Extensions"), (11, "Signature")]
  tagsDistinct := by decide
  namesDistinct := by decide +kernel

def MapTagExtensions : TagMap where
  rows := [(1, "BasicConstraints"), (2, "KeyUsage"), (3, "ExtendedKeyUsage"), (4, "SubjectKeyId"),
    (5, "AuthorityKeyId"), (6, "FutureExtension")]
  tagsDistinct := by decide
  namesDistinct := by decide +kernel

def MapTagBasicConstraints : TagMap where
  rows := [(1, "IsCa"), (2, "PathLength")]
  tagsDistinct := by decide
  namesDistinct := by decide +kernel

def MapTagDn : TagMap where
  rows := [(1, "CommonName"), (2, "Surname"), (3, "SerialNumber"), (4, "CountryName"),
    (5, "LocalityName"), (6, "StateOrProvinceName"), (7, "OrgName"), (8, "OrgUnitName"),
    (9, "Title"), (10, "Name"), (11, "GivenName"), (12, "Initials"), (13, "GenQualifier"),
    (14, "DnQualifier"), (15, "Pseudonym"), (16, "DomainComponent"), (17, "NodeId"),
    (18, "FirmwareSigningId"), (19, "IcacId"), (20, "RcacId"), (21, "FabricId"), (22, "NocCat")]
  tagsDistinct := by decide
  namesDistinct := by decide +kernel

def MapTagExtendedKeyUsage : List (PropertyKey × String) :=
  [(.index 1, "1.3.6.1.5.5.7.3.1"), (.index 2, "1.3.6.1.5.5.7.3.2"),
    (.index 3, "1.3.6.1.5.5.7.3.3"), (.index 4, "1.3.6.1.5.5.7.3.4"),
    (.index 5, "1.3.6.1.5.5.7.3.5"), (.index 6, "1.3.6.1.5.5.7.3.6")]

/-! ## 3. Texts -/

/-- `v.toString(16)`. No encoding of a buffer has the name 16. -/
def toString16 (H : TextHost) : JsValue → Except JsError String
  | .undefined | .buffer _ => .error .typeError
  | .boolean b => .ok (if b then "true" else "false")
  | .number (.int n) =>
    .ok (if n.natAbs ≤ 2 ^ 53 then
      String.ofList ((if n < 0 then ['-'] else []) ++ radixDigits 16 n.natAbs)
    else H.radixText (.int n) 16)
  | .number x => .ok (H.radixText x 16)
  | .bigint n => .ok (String.ofList ((if n < 0 then ['-'] else []) ++ radixDigits 16 n.natAbs))
  | .string s => .ok s
  | .array entries => .ok (String.intercalate "," (entries.map fun _ => "[object Object]"))
  | .object _ => .ok "[object Object]"

/-- `s.toUpperCase()`. -/
def toUpperCase (H : TextHost) (s : String) : String :=
  if s.toList.all (·.toNat < 0x80) then String.ofList (s.toList.map Char.toUpper)
  else H.capitals s

/-- The milliseconds of `Certificate.epochSec(tSec)`, counted from the year 2000. -/
def epochSec (tSec : JsValue) : Except JsError Number := do
  let seconds ← tSec.toNumber
  let timeMs := match seconds.value with
    | .finite negative m e => Number.ofRational negative (m * 1000 * 2 ^ e.toNat) (2 ^ (-e).toNat)
    | _ => seconds
  return timeMs.addInt 946684800000

/-! ## 4. The code -/

/-- What `decode` has once the names are built: the fields, named, and the two names. -/
structure CertificateNames where
  fields : JsValue
  subject : JsonName
  issuer : JsonName

/-- `decode` as far as the names. -/
def decodeNames (H : TextHost) (tlv : Bytes) : Except JsError CertificateNames := do
  let tlv ← Tlv.decode tlv
  let fields ← mapFields (← (JsValue.array tlv).valueAt 0) MapTagStructure.names
  let subject ← mapFields (← get fields "Subject") MapTagDn.names
  let nodeIdHex := toUpperCase H (← toString16 H (← get subject "NodeId"))
  let fabricIdHex := toUpperCase H (← toString16 H (← get subject "FabricId"))
  let issuer ← mapFields (← get fields "Issuer") MapTagDn.names
  let icacIdHex := toUpperCase H (← toString16 H (← get issuer "IcacId"))
  return {
    fields
    subject := [("1.3.6.1.4.1.37244.1.1", [nodeIdHex]), ("1.3.6.1.4.1.37244.1.5", [fabricIdHex])]
    issuer := [("1.3.6.1.4.1.37244.1.3", [icacIdHex])] }

/-- `v.value`. -/
def valueOf : JsValue → Except JsError JsValue
  | .undefined => .error .typeError
  | .object entry => .ok entry.value
  | _ => .ok .undefined

/-- The values of the keys of an entry. -/
def keyed (entry : DeterministicJson) : List JsValue :=
  [entry.profile.elim .undefined fun p => .number (.int p),
    entry.tag.elim .undefined fun t => .number (.int t),
    entry.type.elim .undefined fun label => .string label.text, entry.value] ++
    entry.tagName.toList.map fun name => .string name

/-- `Object.keys(v).map((k) => v[k].value)`. -/
def keyedValues : JsValue → Except JsError (List JsValue)
  | .undefined => .error .typeError
  | .boolean _ | .number _ | .bigint _ => .ok []
  | .string s => .ok (List.replicate (utf16Units s.toList) .undefined)
  | .buffer bs => .ok (bs.map fun _ => .undefined)
  | .array entries => .ok (entries.map (·.value))
  | .object entry => (keyed entry).mapM valueOf

section Code

variable {Key Extension Cert : Type} (X : X509 Key Extension Cert)

def decodeExtensions (fieldsTlv : JsValue) : Except JsError (List Extension) := do
  let extensionsTlv ← mapFields (← get fieldsTlv "Extensions") MapTagExtensions.names
  let basicConstraints ←
    mapFields (← get extensionsTlv "BasicConstraints") MapTagBasicConstraints.names
  let basicConstraintsIsCa ← get basicConstraints "IsCa"
  let basicConstraintsPathLength ← get basicConstraints "PathLength"
  let keyUsage ← get extensionsTlv "KeyUsage"
  let extendedKeyUsage ← get extensionsTlv "ExtendedKeyUsage"
  let extendedKeyUsageArray := (← keyedValues extendedKeyUsage).map (lookup MapTagExtendedKeyUsage)
  let subjectKeyId ← get extensionsTlv "SubjectKeyId"
  let authorityKeyId ← get extensionsTlv "AuthorityKeyId"
  return [← X.basicConstraints basicConstraintsIsCa basicConstraintsPathLength,
    ← X.keyUsages keyUsage,
    ← X.extendedKeyUsage extendedKeyUsageArray,
    ← X.subjectKeyIdentifier (← subjectKeyId.toStringHex),
    ← X.authorityKeyIdentifier (← authorityKeyId.toStringHex)]

def decode (H : TextHost) (tlv : Bytes) : Except JsError Cert := do
  let { fields, subject, issuer } ← decodeNames H tlv
  let serialNumber ← get fields "SerialNumber"
  let signatureAlgorithm ← get fields "SignatureAlgorithm"
  let notAfter ← get fields "NotAfter"
  let notBefore ← get fields "NotBefore"
  let signature ← get fields "Signature"
  let publicKeyRaw ← get fields "PublicKey"
  if ¬ signatureAlgorithm.strictEqNat 1 then
    throw (.thrown "ERROR: SignatureAlgorithm is not 1")
  let extensions ← decodeExtensions X fields
  let publicKey ← X.importKey publicKeyRaw
  X.exportKey publicKey
  X.create {
    serialNumber := ← serialNumber.toStringHex
    subject
    issuer
    notBefore := ← epochSec notBefore
    notAfter := ← epochSec notAfter
    extensions
    publicKey
    signature }

end Code

/-! ## 5. Certificates of nodes -/

/-- A value the reader answers for an unsigned integer: from one, two or four bytes, or from
    eight. -/
inductive IsUnsigned : JsValue → Nat → Prop where
  | number {n : Nat} (h : n < 2 ^ 32) : IsUnsigned (.nat n) n
  | bigint {n : Nat} (h : n < 2 ^ 64) : IsUnsigned (.bigint n) n

/-- Every width is one of them. -/
theorem isUnsigned_value (k : Fin 4) {field : Bytes}
    (h : field.length = (ElementType.unsigned k).width) (content : Bytes) :
    IsUnsigned ((ElementType.unsigned k).value field content) (ofLE field) := by
  have hlt := ofLE_lt field
  rw [h] at hlt
  rcases widthCode_cases k with rfl | rfl | rfl | rfl
  · exact .number (Nat.lt_of_lt_of_le hlt (by decide))
  · exact .number (Nat.lt_of_lt_of_le hlt (by decide))
  · exact .number (Nat.lt_of_lt_of_le hlt (by decide))
  · exact .bigint (Nat.lt_of_lt_of_le hlt (by decide))

/-- The TLV of a certificate with these ids in `Subject` and `Issuer`. -/
def IsNoc (tlv : Bytes) (nodeId fabricId icacId : Nat) : Prop :=
  ∃ top rest fields subject issuer, Tlv.decode tlv = .ok (top :: rest) ∧
    top.value = .array fields ∧
    tagged fields 6 = .array subject ∧ tagged fields 3 = .array issuer ∧
    IsUnsigned (tagged subject 17) nodeId ∧ IsUnsigned (tagged subject 21) fabricId ∧
    IsUnsigned (tagged issuer 19) icacId

/-- The hexadecimal digits of an id in capitals, as many as it has. -/
def hexDigits (n : Nat) : List Char := (radixDigits 16 n).map Char.toUpper

/-- The same, padded with zeros to 16. -/
def fullWidth (n : Nat) : String :=
  String.ofList (List.replicate (16 - (hexDigits n).length) '0' ++ hexDigits n)

section Names

variable {H : TextHost} {n : Nat}

theorem radixDigits_ascii {c : Char} (hc : c ∈ radixDigits 16 n) : c.toNat < 0x80 := by
  unfold radixDigits at hc
  split at hc
  · rw [List.mem_singleton.mp hc]
    decide
  · obtain ⟨d, hd, rfl⟩ := List.mem_map.mp (List.mem_reverse.mp hc)
    have hlt := Nat.digits_lt_base (by decide) hd
    have hall : ∀ d < 16, (Char.ofNat (if d < 10 then 48 + d else 87 + d)).toNat < 0x80 := by decide
    exact hall d hlt

/-- The text an id gets in a name. -/
theorem toString16_id {v : JsValue} (h : IsUnsigned v n) :
    ∃ text, toString16 H v = .ok text ∧ toUpperCase H text = String.ofList (hexDigits n) := by
  refine ⟨String.ofList (radixDigits 16 n), ?_, ?_⟩
  · cases h with
    | number hn =>
      show Except.ok _ = _
      rw [if_pos (by omega), if_neg (by omega), Int.natAbs_natCast, List.nil_append]
    | bigint hn =>
      show Except.ok _ = _
      rw [if_neg (by omega), Int.natAbs_natCast, List.nil_append]
  · have hall : (radixDigits 16 n).all (·.toNat < 0x80) = true :=
      List.all_eq_true.mpr fun c hc => decide_eq_true (radixDigits_ascii hc)
    unfold toUpperCase
    rw [String.toList_ofList, if_pos hall]
    rfl

/-- **The names of a certificate** carry each id as its digits, whatever its width was. -/
theorem decodeNames_noc {tlv : Bytes} {nodeId fabricId icacId : Nat}
    (h : IsNoc tlv nodeId fabricId icacId) :
    ∃ fields, decodeNames H tlv = .ok {
      fields
      subject := [("1.3.6.1.4.1.37244.1.1", [String.ofList (hexDigits nodeId)]),
        ("1.3.6.1.4.1.37244.1.5", [String.ofList (hexDigits fabricId)])]
      issuer := [("1.3.6.1.4.1.37244.1.3", [String.ofList (hexDigits icacId)])] } := by
  obtain ⟨top, rest, fields, subject, issuer, hdecode, htop, hsubject, hissuer, hnode, hfabric,
    hicac⟩ := h
  have hfields : UnnamedEntries fields := by
    have hvalue := ((unnamedEntries_iff _).mp (decode_unnamed hdecode) top
      (List.mem_cons_self ..)).2
    rwa [htop] at hvalue
  have hsubjectUnnamed : UnnamedEntries subject := by
    have hfound := unnamed_tagged hfields 6
    rwa [hsubject] at hfound
  have hissuerUnnamed : UnnamedEntries issuer := by
    have hfound := unnamed_tagged hfields 3
    rwa [hissuer] at hfound
  obtain ⟨node, hnodeText, hnodeHex⟩ := toString16_id (H := H) hnode
  obtain ⟨fabric, hfabricText, hfabricHex⟩ := toString16_id (H := H) hfabric
  obtain ⟨icac, hicacText, hicacHex⟩ := toString16_id (H := H) hicac
  have hgetSubject := get_mapFields (show (6, "Subject") ∈ MapTagStructure.rows by decide)
    (by decide) hfields
  have hgetIssuer := get_mapFields (show (3, "Issuer") ∈ MapTagStructure.rows by decide)
    (by decide) hfields
  have hgetNode := get_mapFields (show (17, "NodeId") ∈ MapTagDn.rows by decide) (by decide)
    hsubjectUnnamed
  have hgetFabric := get_mapFields (show (21, "FabricId") ∈ MapTagDn.rows by decide) (by decide)
    hsubjectUnnamed
  have hgetIcac := get_mapFields (show (19, "IcacId") ∈ MapTagDn.rows by decide) (by decide)
    hissuerUnnamed
  refine ⟨.array (fields.map (nameField MapTagStructure.names)), ?_⟩
  unfold decodeNames
  simp only [hdecode, bind, Except.bind, JsValue.valueAt, List.getElem?_cons_zero,
    Option.elim_some, htop, mapFields, hgetSubject, hsubject, hgetIssuer, hissuer, hgetNode,
    hnodeText, hgetFabric, hfabricText, hgetIcac, hicacText, hnodeHex, hfabricHex, hicacHex]
  rfl

/-- **The names do not depend on the widths**: two certificates with the same ids get the same. -/
theorem names_of_ids {tlv tlv' : Bytes} {nodeId fabricId icacId : Nat}
    (h : IsNoc tlv nodeId fabricId icacId) (h' : IsNoc tlv' nodeId fabricId icacId) :
    ∃ names names', decodeNames H tlv = .ok names ∧ decodeNames H tlv' = .ok names' ∧
      names.subject = names'.subject ∧ names.issuer = names'.issuer := by
  obtain ⟨fields, hnames⟩ := decodeNames_noc (H := H) h
  obtain ⟨fields', hnames'⟩ := decodeNames_noc (H := H) h'
  exact ⟨_, _, hnames, hnames', rfl, rfl⟩

theorem hexDigits_length (n : Nat) : 16 ≤ (hexDigits n).length ↔ 2 ^ 60 ≤ n := by
  unfold hexDigits radixDigits
  rw [List.length_map]
  by_cases hzero : n = 0
  · rw [if_pos hzero, List.length_singleton]
    omega
  · rw [if_neg hzero, List.length_reverse, List.length_map]
    exact Nat.lt_digits_length_iff (b := 16) (k := 15) (by decide) n

/-- No zeros are missing exactly when the top digit is not zero. -/
theorem ofList_hexDigits_eq_iff (n : Nat) :
    String.ofList (hexDigits n) = fullWidth n ↔ 2 ^ 60 ≤ n := by
  unfold fullWidth
  rw [String.ofList_inj, List.self_eq_append_left, List.replicate_eq_nil_iff,
    Nat.sub_eq_zero_iff_le, hexDigits_length]

end Names

/-- The certificate that `decode` answers is made with these names. -/
theorem decode_creates {Key Extension Cert : Type} {X : X509 Key Extension Cert} {H : TextHost}
    {tlv : Bytes} {cert : Cert} (h : decode X H tlv = .ok cert) :
    ∃ names params, decodeNames H tlv = .ok names ∧ X.create params = .ok cert ∧
      params.subject = names.subject ∧ params.issuer = names.issuer := by
  unfold decode at h
  obtain ⟨names, hnames, h⟩ := bind_eq_ok h
  obtain ⟨serialNumber, -, h⟩ := bind_eq_ok h
  obtain ⟨signatureAlgorithm, -, h⟩ := bind_eq_ok h
  obtain ⟨notAfter, -, h⟩ := bind_eq_ok h
  obtain ⟨notBefore, -, h⟩ := bind_eq_ok h
  obtain ⟨signature, -, h⟩ := bind_eq_ok h
  obtain ⟨publicKeyRaw, -, h⟩ := bind_eq_ok h
  dsimp only at h
  split at h
  · cases h
  · obtain ⟨extensions, -, h⟩ := bind_eq_ok h
    obtain ⟨publicKey, -, h⟩ := bind_eq_ok h
    obtain ⟨_, -, h⟩ := bind_eq_ok h
    obtain ⟨serialHex, -, h⟩ := bind_eq_ok h
    obtain ⟨before, -, h⟩ := bind_eq_ok h
    obtain ⟨after, -, h⟩ := bind_eq_ok h
    exact ⟨names, _, hnames, h, rfl, rfl⟩

/-! ## 6. The width of the ids -/

/-- The names carry each id at its full width. -/
structure FullNames (subject issuer : JsonName) (nodeId fabricId icacId : Nat) : Prop where
  subject : subject = [("1.3.6.1.4.1.37244.1.1", [fullWidth nodeId]),
    ("1.3.6.1.4.1.37244.1.5", [fullWidth fabricId])]
  issuer : issuer = [("1.3.6.1.4.1.37244.1.3", [fullWidth icacId])]

/-- **Names carry full-width ids**: those that `decode` builds, and with them those of the certificate
    that it answers; and they depend on the ids alone. -/
structure CarriesFullWidth (H : TextHost) (tlv : Bytes) (nodeId fabricId icacId : Nat) : Prop where
  built : ∃ names, decodeNames H tlv = .ok names ∧
    FullNames names.subject names.issuer nodeId fabricId icacId
  created : ∀ {Key Extension Cert : Type} (X : X509 Key Extension Cert) (cert : Cert),
    decode X H tlv = .ok cert → ∃ params, X.create params = .ok cert ∧
      FullNames params.subject params.issuer nodeId fabricId icacId
  alike : ∀ tlv', IsNoc tlv' nodeId fabricId icacId → ∃ names names',
    decodeNames H tlv = .ok names ∧ decodeNames H tlv' = .ok names' ∧
      names.subject = names'.subject ∧ names.issuer = names'.issuer

/-- **Names carry full-width ids exactly when** no id begins with a zero digit. -/
theorem carriesFullWidth_iff (H : TextHost) {tlv : Bytes} {nodeId fabricId icacId : Nat}
    (h : IsNoc tlv nodeId fabricId icacId) :
    CarriesFullWidth H tlv nodeId fabricId icacId ↔
      2 ^ 60 ≤ nodeId ∧ 2 ^ 60 ≤ fabricId ∧ 2 ^ 60 ≤ icacId := by
  obtain ⟨fields, hnames⟩ := decodeNames_noc (H := H) h
  rw [← ofList_hexDigits_eq_iff nodeId, ← ofList_hexDigits_eq_iff fabricId,
    ← ofList_hexDigits_eq_iff icacId]
  constructor
  · intro hcarries
    obtain ⟨names, hok, hfull⟩ := hcarries.built
    cases hnames.symm.trans hok
    have hsubject := hfull.subject
    have hissuer := hfull.issuer
    simp only [List.cons.injEq, Prod.mk.injEq, and_true, true_and] at hsubject hissuer
    exact ⟨hsubject.1, hsubject.2, hissuer⟩
  · intro hdigits
    obtain ⟨hnode, hfabric, hicac⟩ := hdigits
    rw [hnode, hfabric, hicac] at hnames
    refine ⟨⟨_, hnames, rfl, rfl⟩, fun X cert hcert => ?_, fun tlv' h' => names_of_ids h h'⟩
    obtain ⟨names, params, hok, hcreate, hsubject, hissuer⟩ := decode_creates hcert
    cases hnames.symm.trans hok
    exact ⟨params, hcreate, hsubject, hissuer⟩

/-- An id in a certificate: its bytes, in one of the widths of an unsigned integer. -/
structure IdField where
  width : Fin 4
  bytes : Bytes
  length_bytes : bytes.length = (ElementType.unsigned width).width

namespace IdField

def item (tag : UInt8) (f : IdField) : Item :=
  ⟨.contextSpecific, .unsigned f.width, [tag], f.bytes, [], rfl, f.length_bytes⟩

/-- The number that the bytes are. -/
def id (f : IdField) : Nat := ofLE f.bytes

theorem descend_item (tag : UInt8) (f : IdField) (rest : Bytes) :
    recursiveDescent ((f.item tag).wire ++ rest) = (do
      let (siblings, rest) ← recursiveDescent rest
      return ((f.item tag).entry :: siblings, rest)) := by
  obtain ⟨⟨hleaf, hend, hwhole⟩, -⟩ := isLeaf_unsigned .contextSpecific f.width
    (show ([tag] : Bytes).length = _ from rfl) f.length_bytes
  have hshort : (f.item tag).Short := by
    rintro (hlong | hlong) <;> cases hlong
  exact descend_leaf hleaf hend (.inl (hwhole.full hshort))

end IdField

/-- The start of a list under a tag, and the other items around the ids. -/
def listStart (tag : UInt8) : Item :=
  ⟨.contextSpecific, .container .list, [tag], [], [], rfl, rfl⟩

def structStart : Item := ⟨.anonymous, .container .struct, [], [], [], rfl, rfl⟩

def containerEnd : Item := ⟨.anonymous, .endOfCollection, [], [], [], rfl, rfl⟩

/-- A certificate with the ids alone, each in a width of its own. -/
def wideNoc (nodeId fabricId icacId : IdField) : Bytes :=
  structStart.wire ++
    ((listStart 3).wire ++ ((icacId.item 19).wire ++ (containerEnd.wire ++
    ((listStart 6).wire ++ ((nodeId.item 17).wire ++ ((fabricId.item 21).wire ++
      (containerEnd.wire ++ (containerEnd.wire ++ []))))))))

/-- **It is one of a node**, whatever the widths are. -/
theorem isNoc_wideNoc (nodeId fabricId icacId : IdField) :
    IsNoc (wideNoc nodeId fabricId icacId) nodeId.id fabricId.id icacId.id := by
  have hstruct : structStart.Opens := ⟨⟨.struct, rfl⟩, rfl⟩
  have hlist (tag : UInt8) : (listStart tag).Opens := ⟨⟨.list, rfl⟩, rfl⟩
  have hend : containerEnd.Closes := ⟨rfl, rfl⟩
  have hdecode : Tlv.decode (wideNoc nodeId fabricId icacId) = .ok [
      { structStart.entry with value := .array [
        { (listStart 3).entry with value := .array [(icacId.item 19).entry] },
        { (listStart 6).entry with
          value := .array [(nodeId.item 17).entry, (fabricId.item 21).entry] }] }] := by
    rw [decode_eq_recursiveDescent]
    unfold wideNoc
    simp only [descend_opens hstruct, descend_opens (hlist _), IdField.descend_item,
      descend_closes hend, recursiveDescent_nil, bind, Except.bind, pure, Except.pure, Except.map]
  have hvalue (tag : UInt8) (f : IdField) : IsUnsigned (f.item tag).entry.value f.id :=
    isUnsigned_value f.width f.length_bytes []
  exact ⟨_, _, _, _, _, hdecode, rfl, rfl, rfl, hvalue 17 nodeId, hvalue 21 fabricId,
    hvalue 19 icacId⟩

/-- A certificate with the ids alone, each in the shortest width. -/
def nocWire (nodeId fabricId icacId : UInt64) : Bytes :=
  forestWire [.container none .struct
    [.container (some 3) .list [.leaf (some 19) (.unsigned icacId)],
      .container (some 6) .list
        [.leaf (some 17) (.unsigned nodeId), .leaf (some 21) (.unsigned fabricId)]]]

/-- Node 1 of fabric 2, under ICAC 3. -/
theorem isNoc_node1 : IsNoc (nocWire 1 2 3) 1 2 3 :=
  ⟨_, _, _, _, _, decode_forestWire _, rfl, rfl, rfl, .number (n := 1) (by decide),
    .number (n := 2) (by decide), .number (n := 3) (by decide)⟩

/-- A host that has none of the texts left to it. -/
def asciiHost : TextHost where
  radixText x _ := x.text
  capitals s := s

/-- Eight bytes of an id whose highest is 0x10. -/
def highId (low : UInt8) : IdField := ⟨Fin.last 3, [low, 0, 0, 0, 0, 0, 0, 0x10], rfl⟩

theorem carriesFullWidth_iff_sample : CarriesFullWidth asciiHost
    (wideNoc (highId 1) (highId 2) (highId 3)) (highId 1).id (highId 2).id (highId 3).id :=
  (carriesFullWidth_iff asciiHost (isNoc_wideNoc _ _ _)).mpr (by decide)

/-- Node 1 is named `1`. -/
theorem node1_not_padded :
    IsNoc (nocWire 1 2 3) 1 2 3 ∧ ¬ CarriesFullWidth asciiHost (nocWire 1 2 3) 1 2 3 := by
  refine ⟨isNoc_node1, ?_⟩
  intro hcarries
  obtain ⟨names, hok, hfull⟩ := hcarries.built
  obtain ⟨fields, hnames⟩ := decodeNames_noc (H := asciiHost) isNoc_node1
  cases hnames.symm.trans hok
  have hsubject := hfull.subject
  simp only [List.cons.injEq, Prod.mk.injEq, and_true, true_and] at hsubject
  exact absurd ((ofList_hexDigits_eq_iff 1).mp hsubject.1) (by decide)

end Matternode.Crypto.CertificateTlv
