import Roster.Proofs.Token.Accepted
import Mathlib.Tactic

/-!
# What leaves the check of a token

Every step of a check reports its failures as a failed authentication, up to the last one, which
looks for the name of the user.  A name that is no text, in a token that is otherwise in order, is
reported in another way, and so is a text that is none of characters, which is not looked into at
all.  Nothing else leaves the check: it comes out with a name or with a failed authentication.
-/

namespace Roster

open Outcome

namespace CheckError

variable {α β : Type}

/-- The outcome is the name of a user or is reported as a failed authentication. -/
def NamesOrRejects (outcome : Except CheckError AcceptedToken) : Prop :=
  (∃ accepted, outcome = .ok accepted ∧ accepted.username ≠ []) ∨ ∃ message, Rejects outcome message

/-- All failures of the outcome are reported as a failed authentication. -/
def RejectsOnly (outcome : Except CheckError α) : Prop :=
  ∀ error, outcome = .error error → ∃ message, error.rejection? = some message

theorem rejectsOnly_ok (value : α) : RejectsOnly (.ok value) := by
  intro error herror
  cases herror

theorem rejectsOnly_invalid (reason : Invalid) :
    RejectsOnly (Signer.invalid reason : Except CheckError α) := by
  intro error herror
  cases herror
  exact ⟨_, rfl⟩

theorem RejectsOnly.bind {first : Except CheckError α} {next : α → Except CheckError β}
    (hfirst : RejectsOnly first) (hnext : ∀ value, RejectsOnly (next value)) :
    RejectsOnly (first >>= next) := by
  intro error herror
  rcases bind_eq_error_iff.mp herror with herror | ⟨value, -, herror⟩
  · exact hfirst error herror
  · exact hnext value error herror

end CheckError

namespace Signer

open CheckError

variable {signer : Signer} {token : String} {text : LooseText} {now : Moment} {second : Int}
  {variant : MacVariant} {key : Bytes} {fields claims : Json.Fields} {error : CheckError}

/-! ## The steps of a check -/

theorem rejectsOnly_decodePart (text : List Char) (reason : Invalid) :
    RejectsOnly (decodePart text reason) := by
  unfold decodePart
  cases Base64.decode? Base64.urlSafe text with
  | some bytes => exact rejectsOnly_ok bytes
  | none => exact rejectsOnly_invalid reason

theorem rejectsOnly_readDocument (bytes : Bytes) (notJson notObject : Invalid) :
    RejectsOnly (readDocument bytes notJson notObject) := by
  unfold readDocument
  split
  next => exact rejectsOnly_invalid notJson
  next =>
    split
    next => exact rejectsOnly_invalid notJson
    next fields _ => exact rejectsOnly_ok fields
    next => exact rejectsOnly_invalid notObject

theorem rejectsOnly_readTexts (texts : Texts) : RejectsOnly (readTexts texts) := by
  unfold readTexts
  refine (rejectsOnly_decodePart _ _).bind fun headerBytes => ?_
  refine (rejectsOnly_readDocument _ _ _).bind fun header => ?_
  split
  next => exact rejectsOnly_invalid _
  next =>
    refine (rejectsOnly_decodePart _ _).bind fun payload => ?_
    refine (rejectsOnly_decodePart _ _).bind fun signature => ?_
    exact rejectsOnly_ok _

theorem rejectsOnly_takeApart (token : String) : RejectsOnly (takeApart token) := by
  rcases texts_or_tooFewParts token with ⟨texts, hof⟩ | hfew
  · rw [takeApart_eq_readTexts hof]
    exact rejectsOnly_readTexts texts
  · rw [hfew]
    exact rejectsOnly_invalid _

theorem rejectsOnly_checkTextClaim (name : String) (reason : Invalid) (fields : Json.Fields) :
    RejectsOnly (checkTextClaim name reason fields) := by
  unfold checkTextClaim
  split
  next => exact rejectsOnly_ok ()
  next => exact rejectsOnly_ok ()
  next => exact rejectsOnly_invalid reason

theorem rejectsOnly_checkExtensions (header : Json.Fields) (items : List Json) :
    RejectsOnly (checkExtensions header items) := by
  fun_induction checkExtensions header items with
  | case1 => exact rejectsOnly_ok ()
  | case2 name rest hunsupported => exact rejectsOnly_invalid _
  | case3 name rest hsupported hmissing => exact rejectsOnly_invalid _
  | case4 name rest hsupported hpresent hrest => exact hrest
  | case5 item rest hnotText => exact rejectsOnly_invalid _

theorem rejectsOnly_checkCritical (header : Json.Fields) : RejectsOnly (checkCritical header) := by
  unfold checkCritical
  split
  next => exact rejectsOnly_ok ()
  next first rest _ => exact rejectsOnly_checkExtensions header (first :: rest)
  next => exact rejectsOnly_invalid _

theorem rejectsOnly_checkAttached (header : Json.Fields) : RejectsOnly (checkAttached header) := by
  unfold checkAttached
  split_ifs
  · exact rejectsOnly_invalid _
  · exact rejectsOnly_invalid _
  · exact rejectsOnly_ok ()

theorem rejectsOnly_checkHeader (parts : Parts) : RejectsOnly (checkHeader parts) := by
  rw [checkHeader_eq]
  refine (rejectsOnly_checkTextClaim _ _ _).bind fun _ => ?_
  refine (rejectsOnly_checkCritical _).bind fun _ => ?_
  exact rejectsOnly_checkAttached _

theorem rejectsOnly_checkSignature
    (halgorithm : Algorithm.ofName signer.algorithm = .mac variant)
    (hkey : macKey signer.secret = .ok key) (parts : Parts) :
    RejectsOnly (signer.checkSignature parts) := by
  unfold checkSignature
  simp only [halgorithm, hkey]
  split
  next => exact rejectsOnly_invalid _
  next =>
    split_ifs
    · exact rejectsOnly_invalid _
    · exact rejectsOnly_ok ()
    · exact rejectsOnly_invalid _
  next => exact rejectsOnly_invalid _

theorem rejectsOnly_claimTime (claim : TimeClaim) (fields : Json.Fields) :
    RejectsOnly (claimTime claim fields) := by
  unfold claimTime
  split
  next => exact rejectsOnly_ok none
  next =>
    split
    next time _ => exact rejectsOnly_ok (some time)
    next => exact rejectsOnly_invalid _

theorem rejectsOnly_checkNotEarly (claim : TimeClaim) (fields : Json.Fields) (second : Int) :
    RejectsOnly (checkNotEarly claim fields second) := by
  unfold checkNotEarly
  refine (rejectsOnly_claimTime claim fields).bind fun time? => ?_
  cases time? with
  | none => exact rejectsOnly_ok ()
  | some time =>
      dsimp only
      split_ifs
      · exact rejectsOnly_invalid _
      · exact rejectsOnly_ok ()

theorem rejectsOnly_checkNotExpired (fields : Json.Fields) (second : Int) :
    RejectsOnly (checkNotExpired fields second) := by
  unfold checkNotExpired
  refine (rejectsOnly_claimTime .expiry fields).bind fun time? => ?_
  cases time? with
  | none => exact rejectsOnly_ok ()
  | some time =>
      dsimp only
      split_ifs
      · intro error herror
        cases herror
        exact ⟨_, rfl⟩
      · exact rejectsOnly_ok ()

theorem rejectsOnly_checkIssuer (signer : Signer) (fields : Json.Fields) :
    RejectsOnly (signer.checkIssuer fields) := by
  unfold checkIssuer
  split
  next => exact rejectsOnly_invalid _
  next =>
    split_ifs
    · exact rejectsOnly_ok ()
    · exact rejectsOnly_invalid _
  next => exact rejectsOnly_invalid _

theorem rejectsOnly_checkAudience (fields : Json.Fields) : RejectsOnly (checkAudience fields) := by
  unfold checkAudience
  split
  next => exact rejectsOnly_ok ()
  next =>
    split_ifs
    · exact rejectsOnly_invalid _
    · exact rejectsOnly_ok ()

theorem rejectsOnly_checkClaims (signer : Signer) (fields : Json.Fields) (second : Int) :
    RejectsOnly (signer.checkClaims fields second) := by
  unfold checkClaims
  refine (rejectsOnly_checkNotEarly _ _ _).bind fun _ => ?_
  refine (rejectsOnly_checkNotEarly _ _ _).bind fun _ => ?_
  refine (rejectsOnly_checkNotExpired _ _).bind fun _ => ?_
  refine (rejectsOnly_checkIssuer _ _).bind fun _ => ?_
  refine (rejectsOnly_checkAudience _).bind fun _ => ?_
  refine (rejectsOnly_checkTextClaim _ _ _).bind fun _ => ?_
  exact rejectsOnly_checkTextClaim _ _ _

/-- Up to the name of the user a signer with a key only rejects. -/
theorem rejectsOnly_vouched
    (halgorithm : Algorithm.ofName signer.algorithm = .mac variant)
    (hkey : macKey signer.secret = .ok key) (token : String) (second : Int) :
    RejectsOnly (signer.vouched token second) := by
  unfold vouched
  refine (rejectsOnly_takeApart token).bind fun parts => ?_
  refine (rejectsOnly_checkHeader parts).bind fun _ => ?_
  refine (rejectsOnly_checkSignature halgorithm hkey parts).bind fun _ => ?_
  refine (rejectsOnly_readDocument _ _ _).bind fun claims => ?_
  refine (rejectsOnly_checkClaims signer claims second).bind fun _ => ?_
  exact rejectsOnly_ok claims

/-! ## The name of the user -/

/-- The claims name the user with a value that counts, but is no text. -/
structure NamesNoText (claims : Json.Fields) (value : Json) : Prop where
  field : Json.lastField? "username" claims = some value
  holds : value.holds = true
  noText : ∀ name, value ≠ .text name

theorem usernameOf_escapes_iff :
    usernameOf claims = .error error ∧ error.rejection? = none ↔
      ∃ value, NamesNoText claims value ∧
        error = .nameNotText value.display value.kindWord := by
  unfold usernameOf
  constructor
  · rintro ⟨herror, hescapes⟩
    split at herror
    next =>
      cases herror
      cases hescapes
    next value hfield =>
      split_ifs at herror with hholds
      · split at herror
        next => cases herror
        next hnoText =>
          cases herror
          exact ⟨value, ⟨hfield, hholds, hnoText⟩, rfl⟩
      · cases herror
        cases hescapes
  · rintro ⟨value, ⟨hfield, hholds, hnoText⟩, rfl⟩
    rw [hfield]
    refine ⟨?_, rfl⟩
    cases value with
    | text name => exact absurd rfl (hnoText name)
    | _ => exact if_pos hholds

/-! ## The whole check -/

/-- What leaves the check of a text, and is no failed authentication. -/
inductive Escapes (signer : Signer) (variant : MacVariant) (now : Moment) (text : LooseText) :
    CheckError → Prop where
  | unencodable (hnoToken : ∀ token, text ≠ LooseText.ofString token) :
      Escapes signer variant now text (.unencodable text.firstRun)
  | nameNotText {token : String} {texts : Texts} {header claims : Json.Fields} {value : Json}
      (htoken : text = LooseText.ofString token) (hof : texts.Of token)
      (hvouches : Vouches signer variant now.second texts header claims)
      (hnamed : NamesNoText claims value) :
      Escapes signer variant now text (.nameNotText value.display value.kindWord)

theorem check_escapes_iff
    (halgorithm : Algorithm.ofName signer.algorithm = .mac variant)
    (hkey : macKey signer.secret = .ok key) :
    signer.check token now = .error error ∧ error.rejection? = none ↔
      ∃ claims value, signer.vouched token now.second = .ok claims ∧ NamesNoText claims value ∧
        error = .nameNotText value.display value.kindWord := by
  rw [check_eq]
  constructor
  · rintro ⟨hcheck, hescapes⟩
    rcases bind_eq_error_iff.mp hcheck with hvouched | ⟨claims, hvouched, hcheck⟩
    · obtain ⟨message, hmessage⟩ := rejectsOnly_vouched halgorithm hkey token now.second error
        hvouched
      rw [hescapes] at hmessage
      cases hmessage
    rcases bind_eq_error_iff.mp hcheck with hname | ⟨username, -, hdone⟩
    · obtain ⟨value, hnamed, herror⟩ := usernameOf_escapes_iff.mp ⟨hname, hescapes⟩
      exact ⟨claims, value, hvouched, hnamed, herror⟩
    · cases hdone
  · rintro ⟨claims, value, hvouched, hnamed, herror⟩
    obtain ⟨hname, hescapes⟩ := usernameOf_escapes_iff.mpr ⟨value, hnamed, herror⟩
    rw [hvouched, ok_bind, hname]
    exact ⟨rfl, hescapes⟩

theorem checkText_escapes_iff
    (halgorithm : Algorithm.ofName signer.algorithm = .mac variant)
    (hkey : macKey signer.secret = .ok key) :
    signer.checkText text now = .error error ∧ error.rejection? = none ↔
      Escapes signer variant now text error := by
  unfold checkText
  cases hencode : text.encode with
  | error fault =>
      obtain ⟨hnoToken, rfl⟩ := LooseText.encode_eq_error_iff.mp hencode
      constructor
      · rintro ⟨herror, -⟩
        cases herror
        exact .unencodable hnoToken
      · rintro (- | ⟨htoken, -, -, -⟩)
        · exact ⟨rfl, rfl⟩
        · exact absurd htoken (hnoToken _)
  | ok token =>
      have htext := LooseText.encode_eq_ok_iff.mp hencode
      have hcheck : (Except.ok token).mapError CheckError.unencodable >>=
          (fun token => signer.check token now) = signer.check token now := rfl
      rw [hcheck, check_escapes_iff halgorithm hkey]
      constructor
      · rintro ⟨claims, value, hvouched, hnamed, rfl⟩
        obtain ⟨texts, header, hof, hvouches⟩ := (vouched_eq_ok_iff halgorithm).mp hvouched
        exact .nameNotText htext hof hvouches hnamed
      · rintro (hnoToken | @⟨other, texts, header, claims, value, hother, hof, hvouches, hnamed⟩)
        · exact absurd htext (hnoToken token)
        · obtain rfl := LooseText.ofString_inj.mp (htext.symm.trans hother)
          exact ⟨claims, value,
            (vouched_eq_ok_iff halgorithm).mpr ⟨texts, header, hof, hvouches⟩, hnamed, rfl⟩

/-- An accepted token names a user. -/
theorem checkText_ok_username_ne_nil {accepted : AcceptedToken}
    (halgorithm : Algorithm.ofName signer.algorithm = .mac variant)
    (haccepted : signer.checkText text now = .ok accepted) : accepted.username ≠ [] := by
  unfold checkText at haccepted
  obtain ⟨token, -, hcheck⟩ := bind_eq_ok_iff.mp haccepted
  obtain ⟨texts, header, claims, -, haccepts, -⟩ := (check_eq_ok_iff halgorithm).mp hcheck
  exact haccepts.name_ne_nil

theorem namesOrRejects_iff (halgorithm : Algorithm.ofName signer.algorithm = .mac variant)
    (hkey : macKey signer.secret = .ok key) :
    NamesOrRejects (signer.checkText text now) ↔
      ∀ error, ¬ Escapes signer variant now text error := by
  constructor
  · intro hreported error hescapes
    obtain ⟨hcheck, hnone⟩ := (checkText_escapes_iff halgorithm hkey).mpr hescapes
    rw [hcheck] at hreported
    rcases hreported with ⟨accepted, haccepted, -⟩ | ⟨message, other, hother, hmessage⟩
    · cases haccepted
    · cases hother
      rw [hnone] at hmessage
      cases hmessage
  · intro hkept
    cases hcheck : signer.checkText text now with
    | ok accepted => exact .inl ⟨accepted, rfl, checkText_ok_username_ne_nil halgorithm hcheck⟩
    | error error =>
        cases hmessage : error.rejection? with
        | some message => exact .inr ⟨message, error, rfl, hmessage⟩
        | none =>
            have hescapes := (checkText_escapes_iff halgorithm hkey).mp ⟨hcheck, hmessage⟩
            exact absurd hescapes (hkept error)

/-! ## Tokens over any claims -/

/-- The text that falls apart into the three. -/
def Texts.dotted (texts : Texts) : String :=
  String.ofList (texts.signed ++ '.' :: texts.signature)

/-- The texts of the token that the signer would make of the claims. -/
def sealed (signer : Signer) (variant : MacVariant) (claims : Json.Fields) : Texts :=
  let unsigned : Texts :=
    { header := part (.object signer.headerFields)
      payload := part (.object claims)
      signature := [] }
  { unsigned with signature := Base64.encode Base64.urlSafe (signer.tag variant unsigned) }

theorem sealed_header (claims : Json.Fields) :
    (signer.sealed variant claims).header = part (.object signer.headerFields) := by
  simp only [sealed]

theorem sealed_payload (claims : Json.Fields) :
    (signer.sealed variant claims).payload = part (.object claims) := by
  simp only [sealed]

theorem sealed_signature (claims : Json.Fields) :
    (signer.sealed variant claims).signature =
      Base64.encode Base64.urlSafe (signer.tag variant (signer.sealed variant claims)) := by
  simp only [sealed, tag, Texts.signed]

theorem sealed_of (signer : Signer) (variant : MacVariant) (claims : Json.Fields) :
    (signer.sealed variant claims).Of (signer.sealed variant claims).dotted where
  joined := by rw [Texts.dotted, String.toList_ofList]
  first := by
    rw [sealed_header]
    exact Base64.dot_not_mem_encode _
  last := by
    rw [sealed_signature]
    exact Base64.dot_not_mem_encode _

theorem encodes_part (hsimple : Json.AreSimple fields) (hfields : fields ≠ []) :
    Encodes (part (.object fields)) fields :=
  ⟨written (.object fields), Base64.decode?_encode Base64.urlSafe_readable _,
    readDocument_eq_ok_iff.mp
      (readDocument_written hsimple hfields .payloadNotJson .payloadNotObject)⟩

/-- A signer vouches for all flat claims that hold, whatever else they say. -/
theorem vouches_sealed (hkey : macKey signer.secret = .ok key) (hsimple : Json.AreSimple claims)
    (hclaims : claims ≠ []) (hhold : ClaimsHold signer claims second) :
    Vouches signer variant second (signer.sealed variant claims) signer.headerFields claims := by
  have hheader : checkHeader ⟨[], signer.headerFields, [], []⟩ = .ok () := rfl
  exact {
    header_encoded := by
      rw [sealed_header]
      exact encodes_part (areSimple_header signer) (List.cons_ne_nil _ _)
    header_inOrder := checkHeader_eq_ok_iff.mp hheader
    algorithm := rfl
    key := macKey_eq_ok hkey ▸ hkey
    signature := by rw [sealed_signature, Base64.decode?_encode Base64.urlSafe_readable]
    claims_encoded := by
      rw [sealed_payload]
      exact encodes_part hsimple hclaims
    claims_hold := hhold }

/-- Claims that name the issuer, and the user with a number. -/
def numberedClaims (signer : Signer) : Json.Fields :=
  [("username", .int 123), ("iss", .text signer.issuer)]

theorem numberedClaims_hold (signer : Signer) (second : Int) :
    ClaimsHold signer signer.numberedClaims second where
  issued := nofun
  begun := nofun
  alive := nofun
  issuer := rfl
  audience := nofun
  subject := nofun
  tokenId := nofun

theorem areSimple_numberedClaims (signer : Signer) : Json.AreSimple signer.numberedClaims := by
  have hdigits : 10 ^ 3 ≤ 10 ^ maxIntegerDigits :=
    Nat.pow_le_pow_right (by decide) (by decide)
  intro field hfield
  simp only [numberedClaims, List.mem_cons, List.not_mem_nil, or_false] at hfield
  rcases hfield with rfl | rfl
  · exact ⟨⟨_, rfl⟩, Nat.lt_of_lt_of_le (by decide) hdigits⟩
  · exact ⟨⟨_, rfl⟩, _, rfl⟩

/-- Whoever has the key can make a token that escapes from the check at any time. -/
theorem numbered_escapes (now : Moment) (hkey : macKey signer.secret = .ok key) :
    Escapes signer variant now
      (LooseText.ofString (signer.sealed variant signer.numberedClaims).dotted)
      (.nameNotText "123" "int") := by
  have hvouches : Vouches signer variant now.second _ _ signer.numberedClaims :=
    vouches_sealed hkey (areSimple_numberedClaims signer) (List.cons_ne_nil _ _)
      (numberedClaims_hold signer now.second)
  have hnamed : NamesNoText signer.numberedClaims (.int 123) := ⟨rfl, rfl, nofun⟩
  have hshown : (Json.int 123).display = "123" := by decide +kernel
  rw [← hshown]
  exact .nameNotText rfl (sealed_of signer variant _) hvouches hnamed

/-! ## What leaves the check -/

/-- The check comes out with the name of a user or with a failed authentication, unless the text
is none of characters or the token is in order, but names the user with a value that is no text. -/
theorem check_only_rejects_unless_escapes (signer : Signer) (text : LooseText) (now : Moment)
    (halgorithm : Algorithm.ofName signer.algorithm = .mac variant)
    (hkey : macKey signer.secret = .ok key) :
    (NamesOrRejects (signer.checkText text now) ↔
        ∀ error, ¬ Escapes signer variant now text error) ∧
      ∀ error, signer.checkText text now = .error error ∧ error.rejection? = none ↔
        Escapes signer variant now text error :=
  ⟨namesOrRejects_iff halgorithm hkey, fun _ => checkText_escapes_iff halgorithm hkey⟩

theorem check_only_rejects_unless_escapes_harbour :
    ∃ token : String, harbour.checkText token 1700000000 = .error (.nameNotText "123" "int") ∧
      ∃ text : LooseText, harbour.checkText text 1700000000 =
        .error (.unencodable { position := 1, count := 1, code := 0xD800 }) := by
  have hleaves (text : LooseText) :=
    (check_only_rejects_unless_escapes harbour text 1700000000 ofName_harbour macKey_harbour).2
  have hloose : Escapes harbour .hs384 1700000000 [.char 'a', .surrogate 0]
      (.unencodable { position := 1, count := 1, code := 0xD800 }) := by
    refine .unencodable ?_
    intro token htoken
    have hencode := LooseText.encode_eq_ok_iff.mpr htoken
    cases hencode
  have hnumbered := (hleaves _ _).mpr (numbered_escapes 1700000000 macKey_harbour)
  exact ⟨_, hnumbered.1, _, ((hleaves _ _).mpr hloose).1⟩

theorem numbered_token_neither_accepted_nor_rejected :
    ¬ ∀ (signer : Signer) (variant : MacVariant) (key : Bytes) (text : LooseText) (now : Moment),
      Algorithm.ofName signer.algorithm = .mac variant → macKey signer.secret = .ok key →
        NamesOrRejects (signer.checkText text now) := by
  intro hreported
  have hharbour := hreported harbour .hs384 _
    (LooseText.ofString (harbour.sealed .hs384 harbour.numberedClaims).dotted) 1700000000
    ofName_harbour macKey_harbour
  exact (namesOrRejects_iff ofName_harbour macKey_harbour).mp hharbour _
    (numbered_escapes 1700000000 macKey_harbour)

end Signer
end Roster
