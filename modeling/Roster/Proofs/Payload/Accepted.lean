import Roster.Payload.Credentials
import Roster.Proofs.Outcome
import Mathlib.Tactic

/-!
# Credentials that a form accepts

A payload reaches the service only as credentials that some form was accepted as.  Which these are
does not depend on the form: the email is empty or looks like an address, the password is strong
enough, and one of the two names is not empty.
-/

namespace Roster

open Outcome

namespace Payload

variable {α β : Type}

theorem under_eq_ok_iff {name : String} {outcome : Checked α} {value : α} :
    Checked.under name outcome = .ok value ↔ outcome = .ok value := by
  unfold Checked.under
  exact mapError_eq_ok_iff

theorem and_eq_ok_iff
    {first : Checked α} {second : Checked β} {a : α} {b : β} :
    first.and second = .ok (a, b) ↔ first = .ok a ∧ second = .ok b := by
  cases first with
  | ok value =>
      cases second with
      | ok other => simp [Checked.and]
      | error problems => simp [Checked.and]
  | error problems =>
      cases second with
      | ok other => simp [Checked.and]
      | error more => simp [Checked.and]

theorem required_eq_ok_iff
    {fields : Json.Fields} {name : String} {value : α} {check : Json → Checked α} :
    required fields name check = .ok value ↔
      ∃ field, Json.lastField? name fields = some field ∧ check field = .ok value := by
  unfold required
  cases Json.lastField? name fields with
  | none => simp [under_eq_ok_iff, Checked.fail]
  | some field => simp [under_eq_ok_iff]

theorem withDefault_eq_ok_iff
    {fields : Json.Fields} {name : String} {default value : α}
    {check : Json → Checked α} :
    withDefault fields name default check = .ok value ↔
      Json.lastField? name fields = none ∧ default = value ∨
        ∃ field, Json.lastField? name fields = some field ∧ check field = .ok value := by
  unfold withDefault
  cases Json.lastField? name fields with
  | none => simp
  | some field => simp [under_eq_ok_iff]

end Payload

namespace Credentials

open Payload

/-- Some form is accepted as the credentials. -/
def Accepted (credentials : Credentials) : Prop :=
  ∃ fields, ofFields fields = .ok credentials

variable {form : Json.Fields} {name : String} {credentials : Credentials}

/-! ## Fields -/

/-- The text in a field, which is empty when the field is absent. -/
def TextIn (form : Json.Fields) (name : String) (text : LooseText) : Prop :=
  Json.lastField? name form = some (.text text) ∨
    Json.lastField? name form = none ∧ text = []

theorem checkText_eq_ok_iff {value : Json} {text : LooseText} :
    checkText value = .ok text ↔ value = .text text := by
  cases value with
  | text given => simp [checkText]
  | _ => simp [checkText, Checked.fail]

theorem unchecked_eq_ok_iff {text : LooseText} :
    withDefault form name [] checkText = .ok text ↔ TextIn form name text := by
  rw [withDefault_eq_ok_iff, or_comm]
  simp only [TextIn, checkText_eq_ok_iff, eq_comm (a := text), exists_eq_right]

/-- A check that changes no text says only whether the text in the field passes. -/
theorem checked_eq_ok_iff
    {absent : Checked LooseText} {check : LooseText → Checked LooseText}
    (habsent : ∀ text, absent = .ok text ↔ text = [] ∧ check [] = .ok [])
    (hkeeps : ∀ given text, check given = .ok text → given = text) {text : LooseText} :
    (match Json.lastField? name form with
      | some value => Checked.under name (checkText value >>= check)
      | none => absent) = .ok text ↔
      TextIn form name text ∧ check text = .ok text := by
  unfold TextIn
  cases Json.lastField? name form with
  | none =>
      rw [habsent]
      constructor
      · rintro ⟨rfl, hcheck⟩
        exact ⟨.inr ⟨rfl, rfl⟩, hcheck⟩
      · rintro ⟨hfield | ⟨-, rfl⟩, hcheck⟩
        · cases hfield
        · exact ⟨rfl, hcheck⟩
  | some value =>
      simp only [under_eq_ok_iff, bind_eq_ok_iff, checkText_eq_ok_iff]
      constructor
      · rintro ⟨given, rfl, hcheck⟩
        obtain rfl := hkeeps given text hcheck
        exact ⟨.inl rfl, hcheck⟩
      · rintro ⟨hfield | ⟨habsent, -⟩, hcheck⟩
        · exact ⟨text, Option.some.inj hfield, hcheck⟩
        · cases habsent

theorem checkEmail_keeps (given text : LooseText) (hcheck : checkEmail given = .ok text) :
    given = text := by
  unfold checkEmail at hcheck
  split_ifs at hcheck
  · exact Except.ok.inj hcheck
  · cases hcheck

theorem checkPassword_keeps (given text : LooseText) (hcheck : checkPassword given = .ok text) :
    given = text := by
  unfold checkPassword at hcheck
  split_ifs at hcheck
  · cases hcheck
  · cases hcheck
  · exact Except.ok.inj hcheck
  · cases hcheck

theorem checkEmail_nil : checkEmail [] = .ok [] := rfl

theorem email_eq_ok_iff {text : LooseText} :
    withDefault form name [] (fun value => checkText value >>= checkEmail) = .ok text ↔
      TextIn form name text ∧ checkEmail text = .ok text := by
  refine checked_eq_ok_iff ?_ checkEmail_keeps
  simp [checkEmail_nil, eq_comm]

/-- Without a password the form fails as with an empty one. -/
theorem password_eq_ok_iff {text : LooseText} :
    (match Json.lastField? name form with
      | some value => Checked.under name (checkText value >>= checkPassword)
      | none => Checked.under name (checkPassword [])) = .ok text ↔
      TextIn form name text ∧ checkPassword text = .ok text := by
  refine checked_eq_ok_iff ?_ checkPassword_keeps
  exact fun text => ⟨nofun, nofun⟩

/-! ## Forms -/

/-- The credentials are the three texts in the form. -/
structure GivenBy (form : Json.Fields) (credentials : Credentials) : Prop where
  username : TextIn form "username" credentials.username
  email : TextIn form "email" credentials.email
  password : TextIn form "password" credentials.password

/-- A form is accepted as the texts in it when they pass their checks. -/
theorem ofFields_eq_ok_iff :
    ofFields form = .ok credentials ↔
      credentials.GivenBy form ∧
        checkEmail credentials.email = .ok credentials.email ∧
        checkPassword credentials.password = .ok credentials.password ∧
        (credentials.username ≠ [] ∨ credentials.email ≠ []) := by
  have hnamed : ∀ username email : LooseText,
      ¬ (username.isEmpty && email.isEmpty) = true ↔ username ≠ [] ∨ email ≠ [] := by
    simp [List.isEmpty_iff, or_iff_not_imp_left]
  unfold ofFields
  rw [bind_eq_ok_iff]
  constructor
  · rintro ⟨⟨username, email, password⟩, hall, hend⟩
    obtain ⟨husername, hrest⟩ := and_eq_ok_iff.mp hall
    obtain ⟨hemail, hpassword⟩ := and_eq_ok_iff.mp hrest
    obtain ⟨hemail, hemailPasses⟩ := email_eq_ok_iff.mp hemail
    obtain ⟨hpassword, hpasswordPasses⟩ := password_eq_ok_iff.mp hpassword
    dsimp only at hend
    split_ifs at hend with hnames
    · cases hend
    · cases hend
      exact ⟨⟨unchecked_eq_ok_iff.mp husername, hemail, hpassword⟩, hemailPasses,
        hpasswordPasses, (hnamed _ _).mp hnames⟩
  · rintro ⟨hgiven, hemail, hpassword, hnames⟩
    refine ⟨(credentials.username, credentials.email, credentials.password), ?_,
      if_neg ((hnamed _ _).mpr hnames)⟩
    refine and_eq_ok_iff.mpr ⟨unchecked_eq_ok_iff.mpr hgiven.username, and_eq_ok_iff.mpr ⟨?_, ?_⟩⟩
    · exact email_eq_ok_iff.mpr ⟨hgiven.email, hemail⟩
    · exact password_eq_ok_iff.mpr ⟨hgiven.password, hpassword⟩

def fields (credentials : Credentials) : Json.Fields :=
  [("username", .text credentials.username), ("email", .text credentials.email),
    ("password", .text credentials.password)]

theorem accepted_iff :
    credentials.Accepted ↔
      checkEmail credentials.email = .ok credentials.email ∧
        checkPassword credentials.password = .ok credentials.password ∧
        (credentials.username ≠ [] ∨ credentials.email ≠ []) := by
  constructor
  · rintro ⟨form, hform⟩
    exact (ofFields_eq_ok_iff.mp hform).2
  · intro hchecks
    have hgiven : credentials.GivenBy credentials.fields := ⟨.inl rfl, .inl rfl, .inl rfl⟩
    exact ⟨credentials.fields, ofFields_eq_ok_iff.mpr ⟨hgiven, hchecks⟩⟩

end Credentials
end Roster
