import Roster.Token.Check
import Roster.Proofs.Json.Reading
import Roster.Proofs.Outcome
import Roster.Proofs.Token.Moment
import Roster.Proofs.Text.Base64
import Mathlib.Tactic

/-!
# Issued tokens are accepted

A token that a signer has issued falls apart into the header and the payload that were signed.
The same signer then finds its signature right, so what becomes of the token depends on the second
of the check only: it is too early before the second of issue that the token names, too late from
the second of expiry on, and accepted between.
-/

namespace Roster

open Outcome

theorem utf8_ofList (chars : List Char) :
    utf8 (String.ofList chars) = chars.flatMap String.utf8EncodeChar := by
  unfold utf8
  simp [List.utf8Encode]

/-- A document that begins with a brace and a quote is taken for UTF-8. -/
theorem detect_object (rest : Bytes) :
    Encoding.detect (0x7B :: 0x22 :: rest) = (.utf8, 0x7B :: 0x22 :: rest) := by
  rcases rest with _ | ⟨third, _ | ⟨fourth, rest⟩⟩
  · rfl
  · rfl
  · rfl

namespace Signer

open Json

/-- The bytes that a part of a token stands for. -/
def written (document : Json) : Bytes :=
  utf8 (String.ofList (write tokenStyle document).replaced)

theorem write_object_cons (name : LooseText) (value : Json) (fields : Fields) :
    ∃ others, write tokenStyle (.object ((name, value) :: fields)) =
      .char '\x7b' :: .char '"' :: others := by
  cases fields with
  | nil => exact ⟨_, rfl⟩
  | cons next rest => exact ⟨_, rfl⟩

theorem readDocument_written
    {fields : Fields} (hsimple : AreSimple fields) (hfields : fields ≠ [])
    (notJson notObject : Invalid) :
    readDocument (written (.object fields)) notJson notObject = .ok fields := by
  obtain ⟨⟨name, value⟩, rest, rfl⟩ := List.exists_cons_of_ne_nil hfields
  obtain ⟨others, hothers⟩ := write_object_cons name value rest
  have hbytes : written (.object ((name, value) :: rest)) =
      0x7B :: 0x22 :: (LooseText.replaced others).flatMap String.utf8EncodeChar := by
    unfold written
    rw [hothers, utf8_ofList]
    rfl
  have hloose : readUtf8Loose? (written (.object ((name, value) :: rest))) =
      some (write tokenStyle (.object ((name, value) :: rest))) := by
    unfold written
    rw [readUtf8Loose?_utf8]
    exact congrArg some (ofString_write_object true hsimple)
  have hdecode : decodeDocument? (written (.object ((name, value) :: rest))) =
      some (write tokenStyle (.object ((name, value) :: rest))) := by
    unfold decodeDocument?
    rw [hbytes, detect_object, ← hbytes]
    exact hloose
  have hread : read (write tokenStyle (.object ((name, value) :: rest))) =
      .ok (.object ((name, value) :: rest)) :=
    read_write_object true hsimple hfields
  unfold readDocument
  simp only [hdecode, hread]

/-! ## Taking a token apart -/

theorem decodePart_encode (bytes : Bytes) (reason : Invalid) :
    decodePart (Base64.encode Base64.urlSafe bytes) reason = .ok bytes := by
  unfold decodePart
  rw [Base64.decode?_encode Base64.urlSafe_readable]

theorem takeApart_join
    {header : Fields} (hsimple : AreSimple header) (hfields : header ≠ [])
    (hattached : isDetached header = false) (payload signature : Bytes) :
    let signed := part (.object header) ++ '.' :: Base64.encode Base64.urlSafe payload
    takeApart (String.ofList (signed ++ '.' :: Base64.encode Base64.urlSafe signature)) =
      .ok { signed, header, payload, signature } := by
  intro signed
  have hlast : cutLast? '.' (signed ++ '.' :: Base64.encode Base64.urlSafe signature) =
      some (signed, Base64.encode Base64.urlSafe signature) :=
    cutLast?_append_cons signed (Base64.dot_not_mem_encode signature)
  have hfirst : cutFirst? '.' signed =
      some (part (.object header), Base64.encode Base64.urlSafe payload) :=
    cutFirst?_append_cons _ (Base64.dot_not_mem_encode _)
  have hheader : decodePart (part (.object header)) .headerEncoding =
      .ok (written (.object header)) :=
    decodePart_encode (written (.object header)) .headerEncoding
  have hread := readDocument_written hsimple hfields .headerNotJson .headerNotObject
  unfold takeApart
  simp only [String.toList_ofList, hlast, hfirst, hheader, decodePart_encode, ok_bind, hread,
    hattached, Bool.false_and, Bool.false_eq_true, if_false]
  rfl

/-! ## What is issued -/

variable {signer : Signer} {username token : String} {issued expires now : Moment}
  {start finish second : Int} {variant : MacVariant}

def headerFields (signer : Signer) : Fields :=
  [("alg", .text signer.algorithm), ("typ", .text "JWT")]

def payloadFields (signer : Signer) (username : String) (start finish : Int) : Fields :=
  [("username", .text username), ("iss", .text signer.issuer), ("iat", .int start),
    ("exp", .int finish)]

/-- Every moment that has a place in a token is short enough to be read. -/
theorem expiry_eq_ok (hexpiry : signer.expiry issued = .ok expires) :
    expires = signer.deadline issued ∧
      issued.written.natAbs < 10 ^ maxIntegerDigits ∧
      expires.written.natAbs < 10 ^ maxIntegerDigits := by
  have hdigits : 2 ^ 50 < 10 ^ maxIntegerDigits :=
    calc 2 ^ 50 < 10 ^ 16 := by norm_num
      _ ≤ 10 ^ maxIntegerDigits := Nat.pow_le_pow_right (by decide) (by decide)
  unfold expiry at hexpiry
  simp only at hexpiry
  split_ifs at hexpiry with hlarge hlong hcalendar
  obtain rfl := Except.ok.inj hexpiry
  simp only [deadline, firstMoment, endOfCalendar, Moment.micros_later, Moment.micros_ofSeconds,
    Moment.microsPerSecond] at hcalendar
  refine ⟨rfl, ?_, ?_⟩
  · refine (Moment.natAbs_written_le (2 ^ 50) (by norm_num) ?_).trans_lt hdigits
    simp only [Moment.microsPerSecond]
    omega
  · refine (Moment.natAbs_written_le (2 ^ 50) (by norm_num) ?_).trans_lt hdigits
    simp only [deadline, Moment.micros_later, Moment.microsPerSecond]
    omega

theorem areSimple_header (signer : Signer) : AreSimple signer.headerFields := by
  intro field hfield
  unfold headerFields at hfield
  simp only [List.mem_cons, List.not_mem_nil, or_false] at hfield
  rcases hfield with rfl | rfl
  · exact ⟨⟨_, rfl⟩, _, rfl⟩
  · exact ⟨⟨_, rfl⟩, _, rfl⟩

theorem payload_eq (signer : Signer) (username : String) (start finish : Int) :
    signer.payload username start finish =
      .object (signer.payloadFields username start finish) := rfl

theorem areSimple_payload (username : String) (hexpiry : signer.expiry issued = .ok expires) :
    AreSimple (signer.payloadFields username issued.written expires.written) := by
  obtain ⟨_, hissued, hexpires⟩ := expiry_eq_ok hexpiry
  intro field hfield
  unfold payloadFields at hfield
  simp only [List.mem_cons, List.not_mem_nil, or_false] at hfield
  rcases hfield with rfl | rfl | rfl | rfl
  · exact ⟨⟨_, rfl⟩, _, rfl⟩
  · exact ⟨⟨_, rfl⟩, _, rfl⟩
  · exact ⟨⟨_, rfl⟩, hissued⟩
  · exact ⟨⟨_, rfl⟩, hexpires⟩

def issuedParts
    (signer : Signer) (username : String) (start finish : Int) (signature : Bytes) :
    Parts where
  signed := part signer.header ++ '.' :: part (signer.payload username start finish)
  header := signer.headerFields
  payload := written (signer.payload username start finish)
  signature := signature

theorem issue_eq_ok (hissue : signer.issue username issued = .ok token) :
    ∃ expires signature, signer.expiry issued = .ok expires ∧
      takeApart token =
        .ok (signer.issuedParts username issued.written expires.written signature) ∧
      signer.signature
        (signer.issuedParts username issued.written expires.written signature).signed =
          .ok signature := by
  unfold issue at hissue
  obtain ⟨expires, hexpiry, hissue⟩ := bind_eq_ok_iff.mp hissue
  obtain ⟨signature, hsignature, hissue⟩ := bind_eq_ok_iff.mp hissue
  have htoken := pure_eq_ok_iff.mp hissue
  refine ⟨expires, signature, hexpiry, ?_, hsignature⟩
  rw [← htoken]
  exact takeApart_join (areSimple_header signer) (List.cons_ne_nil _ _) rfl
    (written (signer.payload username issued.written expires.written)) signature

/-- A key and an expiry inside the calendar are enough. -/
theorem issue_total
    {key : Bytes} (username : String)
    (halgorithm : Algorithm.ofName signer.algorithm = .mac variant)
    (hkey : macKey signer.secret = .ok key) (hexpiry : signer.expiry issued = .ok expires) :
    ∃ token, signer.issue username issued = .ok token := by
  unfold issue signature
  simp only [hexpiry, ok_bind, halgorithm, hkey]
  exact ⟨_, rfl⟩

/-! ## Checking what was issued -/

theorem checkHeader_issued (signature : Bytes) :
    checkHeader (signer.issuedParts username start finish signature) = .ok () := rfl

theorem algorithm_ne_empty (halgorithm : Algorithm.ofName signer.algorithm = .mac variant) :
    (LooseText.ofString signer.algorithm).isEmpty = false := by
  rw [← Bool.not_eq_true, LooseText.isEmpty_ofString]
  intro hempty
  rw [hempty] at halgorithm
  cases halgorithm

theorem checkSignature_issued
    {signature : Bytes} (halgorithm : Algorithm.ofName signer.algorithm = .mac variant)
    (hsignature : signer.signature
      (signer.issuedParts username start finish signature).signed = .ok signature) :
    signer.checkSignature (signer.issuedParts username start finish signature) =
      .ok () := by
  have hname : Json.lastField? "alg"
      (signer.issuedParts username start finish signature).header =
        some (.text (LooseText.ofString signer.algorithm)) := rfl
  unfold Signer.signature at hsignature
  unfold checkSignature
  simp only [halgorithm] at hsignature
  simp only [hname, halgorithm, algorithm_ne_empty halgorithm, Bool.false_or, ne_eq,
    not_true_eq_false, decide_false, Bool.false_eq_true, if_false]
  cases hkey : macKey signer.secret with
  | error error =>
      rw [hkey] at hsignature
      cases hsignature
  | ok key =>
      rw [hkey] at hsignature
      exact if_pos (Except.ok.inj hsignature)

theorem readDocument_issued
    (username : String) (hexpiry : signer.expiry issued = .ok expires) (signature : Bytes) :
    readDocument
        (signer.issuedParts username issued.written expires.written signature).payload
        .payloadNotJson .payloadNotObject =
      .ok (signer.payloadFields username issued.written expires.written) := by
  have hread := readDocument_written (areSimple_payload username hexpiry)
    (List.cons_ne_nil _ _) .payloadNotJson .payloadNotObject
  simp only [issuedParts, payload_eq]
  exact hread

/-- A signer with the same secret, but with an issuer and a lifetime of its own. -/
def peer (signer : Signer) (issuer : String) (hours : Int) : Signer :=
  { signer with issuer, lifetimeHours := hours }

theorem checkSignature_peer (issuer : String) (hours : Int) (parts : Parts) :
    (signer.peer issuer hours).checkSignature parts = signer.checkSignature parts := rfl

/-- Only the two times and the issuer of a payload can be held against it. -/
theorem checkClaims_payload (issuer : String) (hours : Int) :
    (signer.peer issuer hours).checkClaims
        (signer.payloadFields username start finish) second =
      if second < start then invalid (.notYetValid .issuedAt)
      else if finish ≤ second then .error .expired
      else if signer.issuer = issuer then .ok ()
      else invalid .wrongIssuer := by
  have hstart : checkNotEarly .issuedAt (signer.payloadFields username start finish) second =
      if second < start then invalid (.notYetValid .issuedAt) else .ok () := rfl
  have hbefore : checkNotEarly .notBefore (signer.payloadFields username start finish) second =
      .ok () := rfl
  have hfinish : checkNotExpired (signer.payloadFields username start finish) second =
      if finish ≤ second then .error .expired else .ok () := rfl
  have hissuer : (signer.peer issuer hours).checkIssuer
      (signer.payloadFields username start finish) =
        if signer.issuer = issuer then .ok () else invalid .wrongIssuer := by
    have hcompare : (signer.peer issuer hours).checkIssuer
        (signer.payloadFields username start finish) =
          if LooseText.ofString signer.issuer = LooseText.ofString issuer then .ok ()
          else invalid .wrongIssuer := rfl
    simp only [hcompare, LooseText.ofString_inj]
  unfold checkClaims
  rw [hstart, hbefore, hfinish, hissuer]
  by_cases hearly : second < start
  · rw [if_pos hearly, if_pos hearly]
    rfl
  · rw [if_neg hearly, if_neg hearly]
    by_cases hlate : finish ≤ second
    · rw [if_pos hlate, if_pos hlate]
      rfl
    · rw [if_neg hlate, if_neg hlate]
      split_ifs
      · rfl
      · rfl

theorem usernameOf_payload (hname : username ≠ "") :
    usernameOf (signer.payloadFields username start finish) =
      .ok (LooseText.ofString username) := by
  have hfield : Json.lastField? "username" (signer.payloadFields username start finish) =
      some (.text (LooseText.ofString username)) := rfl
  have hholds : (Json.text (LooseText.ofString username)).holds = true := by
    change (!(LooseText.ofString username).isEmpty) = true
    rw [Bool.not_eq_true', ← Bool.not_eq_true, LooseText.isEmpty_ofString]
    exact hname
  unfold usernameOf
  rw [hfield]
  simp only [hholds, if_true]

/-- What becomes of an issued token that is checked by a signer with the same secret. -/
theorem check_issued_peer
    (issuer : String) (hours : Int) (now : Moment)
    (halgorithm : Algorithm.ofName signer.algorithm = .mac variant) (hname : username ≠ "")
    (hissue : signer.issue username issued = .ok token) :
    (signer.peer issuer hours).check token now =
      if now.second < issued.written then invalid (.notYetValid .issuedAt)
      else if (signer.deadline issued).written ≤ now.second then .error .expired
      else if signer.issuer = issuer then
        .ok { username := LooseText.ofString username, token }
      else invalid .wrongIssuer := by
  obtain ⟨expires, signature, hexpiry, hparts, hsignature⟩ := issue_eq_ok hissue
  have hpayload := readDocument_issued username hexpiry signature
  have hexpires := (expiry_eq_ok hexpiry).1
  have hsigned := checkSignature_issued halgorithm hsignature
  unfold check
  rw [hparts, ok_bind, checkHeader_issued, ok_bind, checkSignature_peer, hsigned, ok_bind,
    hpayload, ok_bind, checkClaims_payload, usernameOf_payload hname, ← hexpires]
  split_ifs with hearly hlate hsame
  · rfl
  · rfl
  · rfl
  · rfl

theorem check_issued
    (halgorithm : Algorithm.ofName signer.algorithm = .mac variant) (hname : username ≠ "")
    (hissue : signer.issue username issued = .ok token) :
    signer.check token now =
      if now.second < issued.written then invalid (.notYetValid .issuedAt)
      else if (signer.deadline issued).written ≤ now.second then .error .expired
      else .ok { username := LooseText.ofString username, token } := by
  have hself : signer.peer signer.issuer signer.lifetimeHours = signer := rfl
  have hpeer := check_issued_peer signer.issuer signer.lifetimeHours now halgorithm hname hissue
  simpa only [hself, if_true] using hpeer

end Signer
end Roster
