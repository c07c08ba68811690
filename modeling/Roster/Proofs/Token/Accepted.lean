import Roster.Proofs.Token.Lifetime
import Mathlib.Tactic

/-!
# What an accepted token says

A text is accepted as a token after a chain of checks.  Each check has one theorem here, which says
what is true of the text exactly when the check is passed.  Put together, a token is accepted
exactly when it falls apart into three texts of base64 of which the first names the algorithm, the
second holds claims that are good at the time, and the third is the keyed digest of the other two
as they are written.
-/

namespace Roster

open Outcome

namespace Signer

variable {signer : Signer} {token : String} {now : Moment} {second : Int} {accepted : AcceptedToken}
  {variant : MacVariant} {parts : Parts} {fields : Json.Fields} {text : List Char} {bytes : Bytes}
  {name : String} {reason : Invalid}

/-! ## Reading the parts -/

/-- The bytes are a JSON document, which is an object with the fields. -/
def Documents (bytes : Bytes) (fields : Json.Fields) : Prop :=
  ∃ document, decodeDocument? bytes = some document ∧ Json.read document = .ok (.object fields)

/-- The text stands for bytes in base64, and these are an object with the fields. -/
def Encodes (text : List Char) (fields : Json.Fields) : Prop :=
  ∃ bytes, Base64.decode? Base64.urlSafe text = some bytes ∧ Documents bytes fields

theorem decodePart_eq_ok_iff :
    decodePart text reason = .ok bytes ↔ Base64.decode? Base64.urlSafe text = some bytes := by
  unfold decodePart
  cases Base64.decode? Base64.urlSafe text with
  | none => simp [invalid]
  | some decoded => simp

theorem readDocument_eq_ok_iff {notJson notObject : Invalid} :
    readDocument bytes notJson notObject = .ok fields ↔ Documents bytes fields := by
  unfold readDocument Documents
  cases decodeDocument? bytes with
  | none => simp [invalid]
  | some document =>
      simp only [Option.some.injEq, exists_eq_left']
      cases Json.read document with
      | error fault => simp [invalid]
      | ok value =>
          cases value with
          | object others => simp
          | null => simp [invalid]
          | bool value => simp [invalid]
          | int value => simp [invalid]
          | real value => simp [invalid]
          | text value => simp [invalid]
          | list items => simp [invalid]

/-- The three texts of a token. -/
structure Texts where
  header : List Char
  payload : List Char
  signature : List Char

/-- The text that is signed, as it is written in the token. -/
def Texts.signed (texts : Texts) : List Char :=
  texts.header ++ '.' :: texts.payload

/-- The token is cut at its first and at its last dot. -/
structure Texts.Of (texts : Texts) (token : String) : Prop where
  joined : token.toList = texts.signed ++ '.' :: texts.signature
  first : '.' ∉ texts.header
  last : '.' ∉ texts.signature

/-- What is read of the texts before the signature is compared. -/
def readTexts (texts : Texts) : Except CheckError Parts := do
  let headerBytes ← decodePart texts.header .headerEncoding
  let header ← readDocument headerBytes .headerNotJson .headerNotObject
  if isDetached header && !texts.payload.isEmpty then invalid .detachedWithPayload
  let payload ← decodePart texts.payload .payloadEncoding
  let signature ← decodePart texts.signature .signatureEncoding
  return { signed := texts.signed, header, payload, signature }

theorem takeApart_eq_readTexts {texts : Texts} (hof : texts.Of token) :
    takeApart token = readTexts texts := by
  have hlast : cutLast? '.' token.toList = some (texts.signed, texts.signature) :=
    cutLast?_eq_some_iff.mpr ⟨hof.joined, hof.last⟩
  have hfirst : cutFirst? '.' texts.signed = some (texts.header, texts.payload) :=
    cutFirst?_eq_some_iff.mpr ⟨rfl, hof.first⟩
  unfold takeApart
  simp only [hlast, hfirst]
  rfl

/-- Only a text with two dots is taken apart. -/
theorem texts_or_tooFewParts (token : String) :
    (∃ texts : Texts, texts.Of token) ∨ takeApart token = invalid .tooFewParts := by
  unfold takeApart
  split
  next => exact .inr rfl
  next signed signature hlast =>
    split
    next => exact .inr rfl
    next header payload hfirst =>
      obtain ⟨hjoined, hsignature⟩ := cutLast?_eq_some_iff.mp hlast
      obtain ⟨hsigned, hheader⟩ := cutFirst?_eq_some_iff.mp hfirst
      refine .inl ⟨⟨header, payload, signature⟩, ?_, hheader, hsignature⟩
      rw [hjoined, hsigned]
      rfl

theorem readTexts_eq_ok_iff {texts : Texts} :
    readTexts texts = .ok parts ↔
      parts.signed = texts.signed ∧ Encodes texts.header parts.header ∧
        Base64.decode? Base64.urlSafe texts.payload = some parts.payload ∧
        Base64.decode? Base64.urlSafe texts.signature = some parts.signature ∧
        (isDetached parts.header = true → texts.payload = []) := by
  unfold readTexts
  constructor
  · intro hparts
    obtain ⟨bytes, hbytes, hparts⟩ := bind_eq_ok_iff.mp hparts
    obtain ⟨fields, hfields, hparts⟩ := bind_eq_ok_iff.mp hparts
    split at hparts
    next => cases hparts
    next hattached =>
      obtain ⟨payload, hpayload, hparts⟩ := bind_eq_ok_iff.mp hparts
      obtain ⟨signature, hsignature, hparts⟩ := bind_eq_ok_iff.mp hparts
      cases pure_eq_ok_iff.mp hparts
      refine ⟨rfl, ⟨bytes, decodePart_eq_ok_iff.mp hbytes, readDocument_eq_ok_iff.mp hfields⟩,
        decodePart_eq_ok_iff.mp hpayload, decodePart_eq_ok_iff.mp hsignature, ?_⟩
      intro hdetached
      simpa [hdetached] using hattached
  · rintro ⟨hsigned, ⟨bytes, hbytes, hheader⟩, hpayload, hsignature, hempty⟩
    have hattached : ¬(isDetached parts.header && !texts.payload.isEmpty) = true := by
      simpa using hempty
    rw [decodePart_eq_ok_iff.mpr hbytes, ok_bind, readDocument_eq_ok_iff.mpr hheader, ok_bind,
      decodePart_eq_ok_iff.mpr hpayload, decodePart_eq_ok_iff.mpr hsignature]
    simp only [if_neg hattached, ok_bind, ← hsigned]
    rfl

theorem takeApart_eq_ok_iff :
    takeApart token = .ok parts ↔
      ∃ texts : Texts, texts.Of token ∧ parts.signed = texts.signed ∧
        Encodes texts.header parts.header ∧
        Base64.decode? Base64.urlSafe texts.payload = some parts.payload ∧
        Base64.decode? Base64.urlSafe texts.signature = some parts.signature ∧
        (isDetached parts.header = true → texts.payload = []) := by
  constructor
  · intro hparts
    rcases texts_or_tooFewParts token with ⟨texts, hof⟩ | hfew
    · rw [takeApart_eq_readTexts hof] at hparts
      exact ⟨texts, hof, readTexts_eq_ok_iff.mp hparts⟩
    · rw [hfew] at hparts
      cases hparts
  · rintro ⟨texts, hof, hread⟩
    rw [takeApart_eq_readTexts hof]
    exact readTexts_eq_ok_iff.mpr hread

/-! ## The header -/

/-- The field is absent or holds a text. -/
def AbsentOrText (name : LooseText) (fields : Json.Fields) : Prop :=
  ∀ value, Json.lastField? name fields = some value → ∃ text, value = .text text

/-- Every item names an extension that is supported and has its field. -/
def ListsExtensions (header : Json.Fields) (items : List Json) : Prop :=
  ∀ item ∈ items, ∃ name, item = .text name ∧ name ∈ supportedExtensions ∧
    (Json.lastField? name header).isSome

structure HeaderInOrder (header : Json.Fields) : Prop where
  keyId : AbsentOrText "kid" header
  critical : ∀ value, Json.lastField? "crit" header = some value →
    ∃ items, items ≠ [] ∧ value = .list items ∧ ListsExtensions header items
  attached : isDetached header = false

theorem checkTextClaim_eq_ok_iff :
    checkTextClaim name reason fields = .ok () ↔ AbsentOrText name fields := by
  unfold checkTextClaim AbsentOrText
  split
  next hfield => simp [hfield]
  next text hfield => simp [hfield]
  next value hnotText hfield =>
    simp only [invalid, reduceCtorEq, hfield, Option.some.injEq, forall_eq', false_iff]
    rintro ⟨text, rfl⟩
    exact hnotText text rfl

theorem checkExtensions_eq_ok_iff {items : List Json} :
    checkExtensions fields items = .ok () ↔ ListsExtensions fields items := by
  unfold ListsExtensions
  fun_induction checkExtensions fields items with
  | case1 => simp
  | case2 name rest hunsupported =>
      have hnot : name ∉ supportedExtensions := by simpa using hunsupported
      simp [invalid, hnot]
  | case3 name rest _ hmissing =>
      simp only [Option.isNone_iff_eq_none] at hmissing
      simp [invalid, hmissing]
  | case4 name rest hsupported hpresent hrest =>
      have hname : name ∈ supportedExtensions := by simpa using hsupported
      have hfield : (Json.lastField? name fields).isSome := by
        simpa [Option.isSome_iff_ne_none] using hpresent
      rw [hrest]
      simp [hname, hfield]
  | case5 item rest hnotText =>
      simp only [invalid, reduceCtorEq, List.mem_cons, forall_eq_or_imp, false_iff, not_and]
      rintro ⟨name, rfl, -⟩
      exact absurd rfl (hnotText name)

def checkCritical (header : Json.Fields) : Except CheckError Unit :=
  match Json.lastField? "crit" header with
  | none => .ok ()
  | some (.list (first :: rest)) => checkExtensions header (first :: rest)
  | some _ => invalid .criticalNotList

def checkAttached (header : Json.Fields) : Except CheckError Unit :=
  if isDetached header then
    if (Json.lastField? "crit" header).isNone then invalid .detachedNotCritical
    else invalid .detachedPayloadMissing
  else .ok ()

theorem checkHeader_eq (parts : Parts) :
    checkHeader parts = (do
      checkTextClaim "kid" .keyIdNotText parts.header
      checkCritical parts.header
      checkAttached parts.header) := by
  have hattached : (if isDetached parts.header then
      if (Json.lastField? "crit" parts.header).isNone then invalid .detachedNotCritical
      else invalid .detachedPayloadMissing
    else pure ()) = checkAttached parts.header := rfl
  unfold checkHeader checkTextClaim checkCritical
  simp only [hattached]
  generalize checkAttached parts.header = attached
  generalize Json.lastField? "kid" parts.header = keyId?
  generalize Json.lastField? "crit" parts.header = critical?
  rcases keyId? with _ | keyId
  all_goals rcases critical? with _ | critical
  · rfl
  · cases critical with
    | list items => cases items <;> rfl
    | _ => rfl
  · cases keyId with
    | text => rfl
    | _ => rfl
  · cases keyId with
    | text =>
      cases critical with
      | list items => cases items <;> rfl
      | _ => rfl
    | _ => rfl

theorem checkCritical_eq_ok_iff :
    checkCritical fields = .ok () ↔
      ∀ value, Json.lastField? "crit" fields = some value →
        ∃ items, items ≠ [] ∧ value = .list items ∧ ListsExtensions fields items := by
  unfold checkCritical
  split
  next hfield => simp [hfield]
  next first rest hfield =>
    rw [checkExtensions_eq_ok_iff, hfield]
    simp
  next value hnotList hfield =>
    simp only [invalid, reduceCtorEq, hfield, Option.some.injEq, forall_eq', false_iff]
    rintro ⟨items, hitems, rfl, -⟩
    obtain ⟨first, rest, rfl⟩ := List.exists_cons_of_ne_nil hitems
    exact hnotList first rest rfl

theorem checkAttached_eq_ok_iff :
    checkAttached fields = .ok () ↔ isDetached fields = false := by
  unfold checkAttached
  split_ifs with hdetached
  · simp [hdetached, invalid]
  · simp [hdetached, invalid]
  · simpa using hdetached

theorem checkHeader_eq_ok_iff :
    checkHeader parts = .ok () ↔ HeaderInOrder parts.header := by
  rw [checkHeader_eq]
  constructor
  · intro hheader
    obtain ⟨⟨⟩, hkeyId, hheader⟩ := bind_eq_ok_iff.mp hheader
    obtain ⟨⟨⟩, hcritical, hattached⟩ := bind_eq_ok_iff.mp hheader
    exact ⟨checkTextClaim_eq_ok_iff.mp hkeyId, checkCritical_eq_ok_iff.mp hcritical,
      checkAttached_eq_ok_iff.mp hattached⟩
  · intro horder
    rw [checkTextClaim_eq_ok_iff.mpr horder.keyId, ok_bind,
      checkCritical_eq_ok_iff.mpr horder.critical, ok_bind]
    exact checkAttached_eq_ok_iff.mpr horder.attached

/-! ## The signature -/

theorem macKey_eq_ok {secret : String} {key : Bytes} (hkey : macKey secret = .ok key) :
    key = utf8 secret := by
  unfold macKey at hkey
  split_ifs at hkey
  exact (Except.ok.inj hkey).symm

theorem checkSignature_eq_ok_iff (halgorithm : Algorithm.ofName signer.algorithm = .mac variant) :
    signer.checkSignature parts = .ok () ↔
      Json.lastField? "alg" parts.header = some (.text (LooseText.ofString signer.algorithm)) ∧
        macKey signer.secret = .ok (utf8 signer.secret) ∧
        parts.signature =
          signer.crypto.mac variant (utf8 signer.secret) (utf8 (String.ofList parts.signed)) := by
  unfold checkSignature
  split
  next hfield => simp [hfield, invalid]
  next name hfield =>
    by_cases hname : name = LooseText.ofString signer.algorithm
    case neg => simp [hfield, invalid, hname]
    case pos =>
      subst hname
      simp only [hfield, halgorithm, algorithm_ne_empty halgorithm, Bool.false_or, ne_eq,
        not_true_eq_false, decide_false, Bool.false_eq_true, if_false, true_and]
      cases hkey : macKey signer.secret with
      | error error => simp
      | ok key =>
          rw [macKey_eq_ok hkey]
          simp only [true_and]
          split_ifs with hsigned
          · simpa using hsigned.symm
          · simpa [invalid] using fun h => hsigned h.symm
  next value hnotText hfield =>
    simp only [invalid, reduceCtorEq, hfield, Option.some.injEq, false_iff, not_and]
    rintro rfl
    exact absurd rfl (hnotText _)

/-! ## The claims -/

/-- The claim, if it is made, can be read as an integer, and this is good. -/
def TimeHolds (claim : TimeClaim) (good : Int → Prop) (payload : Json.Fields) : Prop :=
  ∀ value, Json.lastField? claim.name payload = some value →
    ∃ time, claimInteger? value = some time ∧ good time

structure ClaimsHold (signer : Signer) (payload : Json.Fields) (second : Int) : Prop where
  issued : TimeHolds .issuedAt (· ≤ second) payload
  begun : TimeHolds .notBefore (· ≤ second) payload
  alive : TimeHolds .expiry (second < ·) payload
  issuer : Json.lastField? "iss" payload = some (.text (LooseText.ofString signer.issuer))
  audience : ∀ value, Json.lastField? "aud" payload = some value → value.holds = false
  subject : AbsentOrText "sub" payload
  tokenId : AbsentOrText "jti" payload

theorem checkNotEarly_eq_ok_iff {claim : TimeClaim} :
    checkNotEarly claim fields second = .ok () ↔ TimeHolds claim (· ≤ second) fields := by
  unfold checkNotEarly TimeHolds claimTime
  cases hfield : Json.lastField? claim.name fields with
  | none => simp [ok_bind]; rfl
  | some value =>
    cases htime : claimInteger? value with
    | none => simp [htime, invalid, bind, Except.bind]
    | some time =>
      simp only [htime, ok_bind]
      split_ifs with hearly
      · simpa [invalid, htime] using hearly
      · simpa [invalid, htime, pure_eq_ok_iff] using hearly

theorem checkNotExpired_eq_ok_iff :
    checkNotExpired fields second = .ok () ↔ TimeHolds .expiry (second < ·) fields := by
  unfold checkNotExpired TimeHolds claimTime
  cases hfield : Json.lastField? TimeClaim.expiry.name fields with
  | none => simp [ok_bind]; rfl
  | some value =>
    cases htime : claimInteger? value with
    | none => simp [htime, invalid, bind, Except.bind]
    | some time =>
      simp only [htime, ok_bind]
      split_ifs with hexpired
      · simpa [throw, throwThe, MonadExceptOf.throw, htime] using hexpired
      · simpa [htime, pure_eq_ok_iff] using hexpired

theorem checkIssuer_eq_ok_iff :
    signer.checkIssuer fields = .ok () ↔
      Json.lastField? "iss" fields = some (.text (LooseText.ofString signer.issuer)) := by
  unfold checkIssuer
  split
  next hfield => simp [hfield, invalid]
  next issuer hfield =>
    rw [hfield]
    split_ifs with hissuer
    · simp [hissuer]
    · simp [hissuer, invalid]
  next value hnotText hfield =>
    simp only [invalid, reduceCtorEq, hfield, Option.some.injEq, false_iff]
    rintro rfl
    exact hnotText _ rfl

theorem checkAudience_eq_ok_iff :
    checkAudience fields = .ok () ↔
      ∀ value, Json.lastField? "aud" fields = some value → value.holds = false := by
  unfold checkAudience
  split
  next hfield => simp [hfield]
  next value hfield =>
    rw [hfield]
    split_ifs with hholds
    · simp [hholds, invalid]
    · simpa using hholds

theorem checkClaims_eq_ok_iff :
    signer.checkClaims fields second = .ok () ↔ ClaimsHold signer fields second := by
  unfold checkClaims
  constructor
  · intro hclaims
    obtain ⟨⟨⟩, hissued, hclaims⟩ := bind_eq_ok_iff.mp hclaims
    obtain ⟨⟨⟩, hbegun, hclaims⟩ := bind_eq_ok_iff.mp hclaims
    obtain ⟨⟨⟩, halive, hclaims⟩ := bind_eq_ok_iff.mp hclaims
    obtain ⟨⟨⟩, hissuer, hclaims⟩ := bind_eq_ok_iff.mp hclaims
    obtain ⟨⟨⟩, haudience, hclaims⟩ := bind_eq_ok_iff.mp hclaims
    obtain ⟨⟨⟩, hsubject, htokenId⟩ := bind_eq_ok_iff.mp hclaims
    exact {
      issued := checkNotEarly_eq_ok_iff.mp hissued
      begun := checkNotEarly_eq_ok_iff.mp hbegun
      alive := checkNotExpired_eq_ok_iff.mp halive
      issuer := checkIssuer_eq_ok_iff.mp hissuer
      audience := checkAudience_eq_ok_iff.mp haudience
      subject := checkTextClaim_eq_ok_iff.mp hsubject
      tokenId := checkTextClaim_eq_ok_iff.mp htokenId }
  · intro hclaims
    rw [checkNotEarly_eq_ok_iff.mpr hclaims.issued, ok_bind,
      checkNotEarly_eq_ok_iff.mpr hclaims.begun, ok_bind,
      checkNotExpired_eq_ok_iff.mpr hclaims.alive, ok_bind,
      checkIssuer_eq_ok_iff.mpr hclaims.issuer, ok_bind,
      checkAudience_eq_ok_iff.mpr hclaims.audience, ok_bind,
      checkTextClaim_eq_ok_iff.mpr hclaims.subject, ok_bind]
    exact checkTextClaim_eq_ok_iff.mpr hclaims.tokenId

theorem usernameOf_eq_ok_iff {username : LooseText} :
    usernameOf fields = .ok username ↔
      Json.lastField? "username" fields = some (.text username) ∧ username ≠ [] := by
  unfold usernameOf
  split
  next hfield => simp [hfield]
  next value hfield =>
    simp only [hfield, Option.some.injEq]
    cases value with
    | text found =>
        cases found with
        | nil => simp [Json.holds, eq_comm]
        | cons first rest =>
          simp only [Json.holds, List.isEmpty_cons, Bool.not_false, if_true, Except.ok.injEq,
            Json.text.injEq, iff_self_and]
          rintro rfl
          exact List.cons_ne_nil first rest
    | _ =>
      split_ifs
      all_goals simp

/-! ## The token -/

/-- The keyed digest of what is signed, as it is written in the token. -/
def tag (signer : Signer) (variant : MacVariant) (texts : Texts) : Bytes :=
  signer.crypto.mac variant (utf8 signer.secret) (utf8 (String.ofList texts.signed))

/-- Everything that is checked before the name of the user is looked for. -/
structure Vouches (signer : Signer) (variant : MacVariant) (second : Int) (texts : Texts)
    (header claims : Json.Fields) : Prop where
  header_encoded : Encodes texts.header header
  header_inOrder : HeaderInOrder header
  algorithm : Json.lastField? "alg" header = some (.text (LooseText.ofString signer.algorithm))
  key : macKey signer.secret = .ok (utf8 signer.secret)
  signature : Base64.decode? Base64.urlSafe texts.signature = some (signer.tag variant texts)
  claims_encoded : Encodes texts.payload claims
  claims_hold : ClaimsHold signer claims second

/-- Everything that is checked before the texts of a token are accepted. -/
structure Accepts (signer : Signer) (variant : MacVariant) (second : Int) (texts : Texts)
    (header claims : Json.Fields) (username : LooseText) : Prop
    extends Vouches signer variant second texts header claims where
  named : Json.lastField? "username" claims = some (.text username)
  name_ne_nil : username ≠ []

/-- The claims of a token that has passed all checks but that of the name. -/
def vouched (signer : Signer) (token : String) (second : Int) : Except CheckError Json.Fields := do
  let parts ← takeApart token
  checkHeader parts
  signer.checkSignature parts
  let claims ← readDocument parts.payload .payloadNotJson .payloadNotObject
  signer.checkClaims claims second
  return claims

theorem check_eq (signer : Signer) (token : String) (now : Moment) :
    signer.check token now = (do
      let claims ← signer.vouched token now.second
      let username ← usernameOf claims
      return { username, token }) := by
  unfold check vouched
  simp only [bind_assoc, pure_bind]

theorem vouched_eq_ok_iff
    (halgorithm : Algorithm.ofName signer.algorithm = .mac variant) {claims : Json.Fields} :
    signer.vouched token second = .ok claims ↔
      ∃ texts header, texts.Of token ∧ Vouches signer variant second texts header claims := by
  constructor
  · intro hvouched
    unfold vouched at hvouched
    obtain ⟨parts, hparts, hvouched⟩ := bind_eq_ok_iff.mp hvouched
    obtain ⟨⟨⟩, hheader, hvouched⟩ := bind_eq_ok_iff.mp hvouched
    obtain ⟨⟨⟩, hsignature, hvouched⟩ := bind_eq_ok_iff.mp hvouched
    obtain ⟨found, hclaims, hvouched⟩ := bind_eq_ok_iff.mp hvouched
    obtain ⟨⟨⟩, hhold, hvouched⟩ := bind_eq_ok_iff.mp hvouched
    obtain rfl := pure_eq_ok_iff.mp hvouched
    obtain ⟨texts, hof, hsigned, hencoded, hpayload, hdecoded, -⟩ := takeApart_eq_ok_iff.mp hparts
    obtain ⟨halg, hkey, hmac⟩ := (checkSignature_eq_ok_iff halgorithm).mp hsignature
    refine ⟨texts, parts.header, hof, ?_⟩
    exact {
      header_encoded := hencoded
      header_inOrder := checkHeader_eq_ok_iff.mp hheader
      algorithm := halg
      key := hkey
      signature := by rw [hdecoded, hmac, hsigned, tag]
      claims_encoded := ⟨parts.payload, hpayload, readDocument_eq_ok_iff.mp hclaims⟩
      claims_hold := checkClaims_eq_ok_iff.mp hhold }
  · rintro ⟨texts, header, hof, hvouches⟩
    obtain ⟨payload, hpayload, hclaims⟩ := hvouches.claims_encoded
    have hparts : takeApart token = .ok
        { signed := texts.signed, header, payload, signature := signer.tag variant texts } :=
      takeApart_eq_ok_iff.mpr ⟨texts, hof, rfl, hvouches.header_encoded, hpayload,
        hvouches.signature, by simp [hvouches.header_inOrder.attached]⟩
    unfold vouched
    rw [hparts, ok_bind, checkHeader_eq_ok_iff.mpr hvouches.header_inOrder, ok_bind,
      (checkSignature_eq_ok_iff halgorithm).mpr ⟨hvouches.algorithm, hvouches.key, rfl⟩, ok_bind,
      readDocument_eq_ok_iff.mpr hclaims, ok_bind,
      checkClaims_eq_ok_iff.mpr hvouches.claims_hold, ok_bind]
    rfl

theorem check_eq_ok_iff (halgorithm : Algorithm.ofName signer.algorithm = .mac variant) :
    signer.check token now = .ok accepted ↔
      ∃ texts header claims, texts.Of token ∧
        Accepts signer variant now.second texts header claims accepted.username ∧
        accepted.token = token := by
  rw [check_eq]
  constructor
  · intro hcheck
    obtain ⟨claims, hclaims, hcheck⟩ := bind_eq_ok_iff.mp hcheck
    obtain ⟨username, hname, haccepted⟩ := bind_eq_ok_iff.mp hcheck
    obtain rfl := pure_eq_ok_iff.mp haccepted
    obtain ⟨texts, header, hof, hvouches⟩ := (vouched_eq_ok_iff halgorithm).mp hclaims
    obtain ⟨hnamed, hnonempty⟩ := usernameOf_eq_ok_iff.mp hname
    exact ⟨texts, header, claims, hof, ⟨hvouches, hnamed, hnonempty⟩, rfl⟩
  · rintro ⟨texts, header, claims, hof, haccepts, htoken⟩
    have hvouched : signer.vouched token now.second = .ok claims :=
      (vouched_eq_ok_iff halgorithm).mpr ⟨texts, header, hof, haccepts.toVouches⟩
    rw [hvouched, ok_bind, usernameOf_eq_ok_iff.mpr ⟨haccepts.named, haccepts.name_ne_nil⟩,
      ok_bind, ← htoken]
    rfl

/-- A token is accepted only if the signer could have signed it: it names the signer's algorithm,
its last part is the keyed digest of the others, and its claims are good at the time. -/
theorem accepted_token_signed_and_in_force
    (signer : Signer) (token : String) (now : Moment)
    (halgorithm : Algorithm.ofName signer.algorithm = .mac variant)
    (haccepted : signer.check token now = .ok accepted) :
    ∃ texts : Texts, texts.Of token ∧
      (∃ header, Encodes texts.header header ∧
        Json.lastField? "alg" header = some (.text (LooseText.ofString signer.algorithm))) ∧
      Base64.decode? Base64.urlSafe texts.signature = some
        (signer.crypto.mac variant (utf8 signer.secret) (utf8 (String.ofList texts.signed))) ∧
      (∃ claims, Encodes texts.payload claims ∧
        Json.lastField? "iss" claims = some (.text (LooseText.ofString signer.issuer)) ∧
        TimeHolds .expiry (now.second < ·) claims ∧
        TimeHolds .issuedAt (· ≤ now.second) claims ∧
        TimeHolds .notBefore (· ≤ now.second) claims ∧
        Json.lastField? "username" claims = some (.text accepted.username) ∧
        accepted.username ≠ []) ∧
      accepted.token = token := by
  obtain ⟨texts, header, claims, hof, haccepts, htoken⟩ :=
    (check_eq_ok_iff halgorithm).mp haccepted
  have hhold := haccepts.claims_hold
  exact ⟨texts, hof, ⟨header, haccepts.header_encoded, haccepts.algorithm⟩, haccepts.signature,
    ⟨claims, haccepts.claims_encoded, hhold.issuer, hhold.alive, hhold.issued, hhold.begun,
      haccepts.named, haccepts.name_ne_nil⟩, htoken⟩

theorem accepted_token_signed_and_in_force_harbour :
    ∃ token accepted, harbour.check token 1700003600 = .ok accepted ∧
      ∃ texts : Texts, texts.Of token ∧
        Base64.decode? Base64.urlSafe texts.signature = some
          (harbour.crypto.mac .hs384 (utf8 "secret") (utf8 (String.ofList texts.signed))) ∧
        ∃ claims, Encodes texts.payload claims ∧ TimeHolds .expiry (1700003600 < ·) claims ∧
          Json.lastField? "username" claims = some (.text accepted.username) := by
  have hexpiry : harbour.expiry 1700000000 = .ok (harbour.deadline 1700000000) :=
    expiry_of_inCalendar (by decide) (by decide)
  obtain ⟨token, hissue⟩ := issue_total "zoë 🚢" ofName_harbour macKey_harbour hexpiry
  have hcheck : harbour.check token 1700003600 =
      .ok { username := LooseText.ofString "zoë 🚢", token } :=
    check_issued ofName_harbour (by decide) hissue
  obtain ⟨texts, hof, -, hsignature, ⟨claims, hclaims, -, halive, -, -, hnamed, -⟩, -⟩ :=
    accepted_token_signed_and_in_force harbour token 1700003600 ofName_harbour hcheck
  exact ⟨token, _, hcheck, texts, hof, hsignature, claims, hclaims, halive, hnamed⟩

end Signer
end Roster
