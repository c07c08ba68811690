import Roster.Proofs.Text.Folding
import Roster.Proofs.User.Reachable
import Mathlib.Tactic

/-!
# Which login names can be held twice

Before names are written they are looked for, and the lookup folds the stored names in ASCII but
the wanted one in full.  Two rows whose names fold in ASCII can therefore never clash, which is the
invariant of the registry.  A name that does not fold in ASCII is invisible to the lookup, and any
name with the same full folding can be registered after it.  Together this settles which pairs of
names that are equal up to case two users can hold at the same time.
-/

namespace Roster

open Call Outcome

/-! ## Names of a user -/

namespace LoginColumn

def of (column : LoginColumn) (user : User) : String :=
  match column with
  | .username => user.username
  | .email => user.email

theorem text?_cell (column : LoginColumn) (user : User) :
    (column.cell user).text? = some (column.of user) := by
  cases column with
  | username => rfl
  | email => rfl

/-- A name that an accepted payload can bring into the column. -/
def Admits (column : LoginColumn) (name : String) : Prop :=
  name ≠ "" ∧
    (column = .email → Credentials.checkEmail (LooseText.ofString name) =
      .ok (LooseText.ofString name))

end LoginColumn

theorem User.Fits.ofCredentials {service : Service} {credentials : Credentials} {user : User}
    (hfits : user.Fits service credentials) (column : LoginColumn) :
    column.ofCredentials credentials = LooseText.ofString (column.of user) := by
  cases column with
  | username => exact hfits.username
  | email => exact hfits.email

theorem User.Fits.admits {service : Service} {credentials : Credentials} {user : User}
    (hfits : user.Fits service credentials) (haccepted : credentials.Accepted)
    {column : LoginColumn} (hname : column.of user ≠ "") :
    column.Admits (column.of user) := by
  refine ⟨hname, ?_⟩
  intro hcolumn
  subst column
  have hcheck := (Credentials.accepted_iff.mp haccepted).1
  rwa [hfits.email] at hcheck

/-- Two names that are equal up to case, and that the lookup would have found. -/
structure Clash (first second : String) : Prop where
  first_named : first ≠ ""
  second_named : second ≠ ""
  same : lower first = lower second
  first_folds : FoldsInAscii first
  second_folds : FoldsInAscii second

theorem Clash.symm {first second : String} (hclash : Clash first second) :
    Clash second first :=
  ⟨hclash.second_named, hclash.first_named, hclash.same.symm, hclash.second_folds,
    hclash.first_folds⟩

namespace Users

variable {service : Service} {state : State}

/-! ## Looking for names -/

theorem named?_eq_ok_iff
    {column : LoginColumn} {name : String} {users : Table User}
    {found : Option User} (hname : name ≠ "") :
    named? column (LooseText.ofString name) users = .ok found ↔
      .select ∉ users.failing ∧
        users.rows.find? (fun user => asciiLower (column.of user) = lower name) =
          found := by
  have hnonempty : ¬ (LooseText.ofString name).isEmpty = true := by
    rwa [LooseText.isEmpty_ofString]
  unfold named?
  rw [if_neg hnonempty, Table.findName?_eq_ok_iff]
  constructor
  · rintro ⟨hselect, wanted, hwanted, hfound⟩
    rw [LooseText.lower_ofString] at hwanted
    have heq : lower name = wanted := LooseText.ofString_inj.mp hwanted
    refine ⟨hselect, ?_⟩
    simpa [LoginColumn.text?_cell, heq] using hfound
  · rintro ⟨hselect, hfound⟩
    refine ⟨hselect, lower name, LooseText.lower_ofString name, ?_⟩
    simpa [LoginColumn.text?_cell] using hfound

/-- A name that counts as free is only found, if at all, in the own row. -/
theorem own_of_isTaken_eq_false
    {column : LoginColumn} {name : String} {own : Option String} {users : Table User}
    (hname : name ≠ "")
    (hfree : isTaken column (LooseText.ofString name) own users = .ok false)
    {user : User} (huser : user ∈ users.rows)
    (hfound : asciiLower (column.of user) = lower name) :
    ∃ first ∈ users.rows, asciiLower (column.of first) = lower name ∧
      some first.id = own := by
  unfold isTaken at hfree
  obtain ⟨found, hlookup, hanswer⟩ := bind_eq_ok_iff.mp hfree
  have hfind := ((named?_eq_ok_iff hname).mp hlookup).2
  cases found with
  | none =>
      have hnone := List.find?_eq_none.mp hfind user huser
      simp [hfound] at hnone
  | some first =>
      refine ⟨first, List.mem_of_find?_eq_some hfind, ?_, ?_⟩
      · simpa using List.find?_some hfind
      · simpa using pure_eq_ok_iff.mp hanswer

theorem takenColumn?_eq_none_iff
    {credentials : Credentials} {own : Option String} {users : Table User} :
    takenColumn? credentials own users = .ok none ↔
      ∀ column : LoginColumn,
        isTaken column (column.ofCredentials credentials) own users = .ok false := by
  unfold takenColumn?
  constructor
  · intro hnone column
    obtain ⟨usernameTaken, husername, hrest⟩ := bind_eq_ok_iff.mp hnone
    cases usernameTaken with
    | true => cases hrest
    | false =>
        obtain ⟨emailTaken, hemail, hrest⟩ := bind_eq_ok_iff.mp hrest
        cases emailTaken with
        | true => cases hrest
        | false =>
            cases column with
            | username => exact husername
            | email => exact hemail
  · intro hfree
    have husername := hfree .username
    have hemail := hfree .email
    simp only [LoginColumn.ofCredentials] at husername hemail
    rw [husername]
    apply bind_eq_ok_iff.mpr
    exact ⟨false, rfl, bind_eq_ok_iff.mpr ⟨false, hemail, rfl⟩⟩

/-! ## The invariant -/

/-- No two rows clash, and every name was brought by an accepted payload. -/
structure Consistent (rows : List User) : Prop where
  no_clash : ∀ first ∈ rows, ∀ second ∈ rows, first.id ≠ second.id →
    ∀ column : LoginColumn, ¬ Clash (column.of first) (column.of second)
  admitted : ∀ user ∈ rows, ∀ column : LoginColumn, column.of user ≠ "" →
    column.Admits (column.of user)

/-- New names that count as free clash with the names of no other row.  If one
did, then the own row would be found before it, and the two would clash already. -/
theorem Consistent.no_clash_of_free
    {credentials : Credentials} {own : Option String} {user other : User}
    {users : Table User} (hconsistent : Consistent users.rows)
    (hfits : user.Fits service credentials)
    (hfree : takenColumn? credentials own users = .ok none)
    (hown : ∀ id ∈ own, user.id = id)
    (hother : other ∈ users.rows) (hid : other.id ≠ user.id) (column : LoginColumn) :
    ¬ Clash (column.of other) (column.of user) := by
  intro hclash
  have hcolumn := takenColumn?_eq_none_iff.mp hfree column
  rw [hfits.ofCredentials column] at hcolumn
  have hfound : asciiLower (column.of other) = lower (column.of user) :=
    hclash.first_folds.trans hclash.same
  obtain ⟨first, hfirst, hfirstFound, hfirstOwn⟩ :=
    own_of_isTaken_eq_false hclash.second_named hcolumn hother hfound
  have hfirstId : user.id = first.id := hown first.id hfirstOwn.symm
  obtain ⟨hfolds, hsame⟩ := FoldsInAscii.of_asciiLower_eq hfirstFound hclash.second_folds
  have hfirstNamed : column.of first ≠ "" := by
    intro hempty
    apply hclash.first_named
    rw [← asciiLower_eq_empty_iff, hfound, ← hfirstFound, hempty]
    rfl
  apply hconsistent.no_clash first hfirst other hother
  · intro heq
    exact hid (heq.symm.trans hfirstId.symm)
  · exact ⟨hfirstNamed, hclash.first_named, hsame.trans hclash.same.symm, hfolds,
      hclash.first_folds⟩

/-- A row that clashes with no other may stand among rows that do not clash. -/
theorem Consistent.of_new
    {before after : List User} {user : User} (hconsistent : Consistent before)
    (hrows : ∀ row ∈ after, row = user ∨ row ∈ before ∧ row.id ≠ user.id)
    (hfree : ∀ other ∈ before, other.id ≠ user.id → ∀ column : LoginColumn,
      ¬ Clash (column.of other) (column.of user))
    (hadmitted : ∀ column : LoginColumn, column.of user ≠ "" →
      column.Admits (column.of user)) :
    Consistent after := by
  constructor
  · intro first hfirst second hsecond hids column
    rcases hrows first hfirst with rfl | ⟨hfirst, hfirstId⟩
    · rcases hrows second hsecond with rfl | ⟨hsecond, hsecondId⟩
      · exact absurd rfl hids
      · intro hclash
        exact hfree second hsecond hsecondId column hclash.symm
    · rcases hrows second hsecond with rfl | ⟨hsecond, hsecondId⟩
      · exact hfree first hfirst hfirstId column
      · exact hconsistent.no_clash first hfirst second hsecond hids column
  · intro row hrow column
    rcases hrows row hrow with rfl | ⟨hrow, _⟩
    · exact hadmitted column
    · exact hconsistent.admitted row hrow column

theorem Consistent.step
    {before : Table User} {after : List User} (hconsistent : Consistent before.rows)
    (hstep : RowStep service before after) : Consistent after := by
  cases hstep with
  | stay => exact hconsistent
  | append credentials user haccepted hfits hfree hnew =>
      apply hconsistent.of_new
      · intro row hrow
        rcases List.mem_append.mp hrow with hrow | hrow
        · exact .inr ⟨hrow, hnew row hrow⟩
        · exact .inl (List.mem_singleton.mp hrow)
      · intro other hother hid column
        exact hconsistent.no_clash_of_free hfits hfree (by simp) hother hid column
      · intro column hname
        exact hfits.admits haccepted hname
  | overwrite credentials user own haccepted hfits hfree hown =>
      apply hconsistent.of_new
      · intro row hrow
        exact Table.mem_overwrite hrow
      · intro other hother hid column
        exact hconsistent.no_clash_of_free hfits hfree hown hother hid column
      · intro column hname
        exact hfits.admits haccepted hname
  | drop id =>
      constructor
      · intro first hfirst second hsecond
        exact hconsistent.no_clash first (List.mem_filter.mp hfirst).1 second
          (List.mem_filter.mp hsecond).1
      · intro user huser
        exact hconsistent.admitted user (List.mem_filter.mp huser).1

theorem Reachable.consistent (hreach : Reachable service state) :
    Consistent state.users.rows := by
  refine (hreach.rows_induction ?_ ?_).2
  · constructor
    · intro first hfirst
      cases hfirst
    · intro user huser
      cases huser
  · intro before after _ hconsistent hstep
    exact hconsistent.step hstep

/-- Names in ASCII are unique up to case, in either column. -/
theorem Reachable.ascii_names_unique
    (hreach : Reachable service state) {first second : User}
    (hfirst : first ∈ state.users.rows) (hsecond : second ∈ state.users.rows)
    (hids : first.id ≠ second.id) {column : LoginColumn}
    (hfirstNamed : column.of first ≠ "") (hsecondNamed : column.of second ≠ "")
    (hfirstAscii : ∀ c ∈ (column.of first).toList, c.toNat < 0x80)
    (hsecondAscii : ∀ c ∈ (column.of second).toList, c.toNat < 0x80) :
    lower (column.of first) ≠ lower (column.of second) := by
  intro hsame
  exact hreach.consistent.no_clash first hfirst second hsecond hids column
    ⟨hfirstNamed, hsecondNamed, hsame, foldsInAscii_of_ascii hfirstAscii,
      foldsInAscii_of_ascii hsecondAscii⟩

end Users

/-! ## Registering two users -/

namespace LoginColumn

def only (column : LoginColumn) (name : String) : Credentials :=
  match column with
  | .username => {
      username := LooseText.ofString name, email := [], password := "SecurePass123!" }
  | .email => {
      username := [], email := LooseText.ofString name, password := "SecurePass123!" }

theorem Admits.accepted {column : LoginColumn} {name : String}
    (hadmits : column.Admits name) : (column.only name).Accepted := by
  have hnonempty : LooseText.ofString name ≠ [] := by
    intro hempty
    apply hadmits.1
    rw [← LooseText.isEmpty_ofString, hempty]
    rfl
  have hpassword : Credentials.checkPassword "SecurePass123!" = .ok "SecurePass123!" := by
    decide +kernel
  rw [Credentials.accepted_iff]
  cases column with
  | username => exact ⟨Credentials.checkEmail_nil, hpassword, .inl hnonempty⟩
  | email => exact ⟨hadmits.2 rfl, hpassword, .inr hnonempty⟩

theorem ofCredentials_only (column : LoginColumn) (name : String) :
    column.ofCredentials (column.only name) = LooseText.ofString name := by
  cases column with
  | username => rfl
  | email => rfl

theorem hash_only (column : LoginColumn) (name : String) (crypto : Crypto) (salt : Bytes) :
    ∃ hash, Password.hash crypto salt (column.only name).password = .ok hash := by
  cases column with
  | username => exact ⟨_, rfl⟩
  | email => exact ⟨_, rfl⟩

/-- Two users hold the names in the column. -/
def TwoHold (column : LoginColumn) (rows : List User) (a b : String) : Prop :=
  ∃ first ∈ rows, ∃ second ∈ rows, first.id ≠ second.id ∧
    column.of first = a ∧ column.of second = b

end LoginColumn

theorem User.Fits.of_only {service : Service} {column : LoginColumn} {name : String}
    {user : User} (hfits : user.Fits service (column.only name)) : column.of user = name := by
  have hname := hfits.ofCredentials column
  rw [column.ofCredentials_only name] at hname
  exact LooseText.ofString_inj.mp hname.symm

namespace Users

variable {service : Service} {state : State}

theorem takenColumn?_only
    {column : LoginColumn} {name : String} {users : Table User}
    (hname : name ≠ "") (hfailing : users.failing = [])
    (hunseen : ∀ user ∈ users.rows, asciiLower (column.of user) ≠ lower name) :
    takenColumn? (column.only name) none users = .ok none := by
  have hnamed : named? column (LooseText.ofString name) users = .ok none := by
    rw [named?_eq_ok_iff hname, hfailing]
    refine ⟨List.not_mem_nil, List.find?_eq_none.mpr ?_⟩
    intro user huser
    rw [decide_eq_true_eq]
    exact hunseen user huser
  have hfree : isTaken column (LooseText.ofString name) none users = .ok false := by
    unfold isTaken
    exact bind_eq_ok_iff.mpr ⟨none, hnamed, rfl⟩
  rw [takenColumn?_eq_none_iff]
  intro other
  cases column with
  | username =>
      cases other with
      | username => exact hfree
      | email => rfl
  | email =>
      cases other with
      | username => rfl
      | email => exact hfree

/-- A name that no row is found under can be created. -/
theorem create_only
    (service : Service) (state : State) (column : LoginColumn) {name : String}
    (hname : name ≠ "") (hfailing : state.users.failing = [])
    (hunseen : ∀ user ∈ state.users.rows, asciiLower (column.of user) ≠ lower name)
    (hnew : ∀ user ∈ state.users.rows,
      user.id ≠ Identifier.generated (state.identifiers + 1)) :
    ∃ user : User, user.Fits service (column.only name) ∧
      user.id = Identifier.generated (state.identifiers + 1) ∧
      (create service (column.only name)).after state =
        (.ok user.view, { state with
          users := { rows := state.users.rows ++ [user] }
          identifiers := state.identifiers + 1
          salts := state.salts + 1 }) := by
  obtain ⟨hash, hhash⟩ :=
    column.hash_only name service.signer.crypto (service.salt state.salts)
  have hfree := takenColumn?_only hname hfailing hunseen
  cases column with
  | username =>
      exact ⟨_, ⟨rfl, rfl, _, hhash⟩, rfl,
        create_total name "" hfailing hfree rfl rfl hhash hnew⟩
  | email =>
      exact ⟨_, ⟨rfl, rfl, _, hhash⟩, rfl,
        create_total "" name hfailing hfree rfl rfl hhash hnew⟩

/-- A name that no row is found under can be registered. -/
theorem Reachable.register
    (hreach : Reachable service state) {column : LoginColumn} {name : String}
    (hadmits : column.Admits name) (hfailing : state.users.failing = [])
    (hunseen : ∀ user ∈ state.users.rows, asciiLower (column.of user) ≠ lower name)
    (hnew : ∀ user ∈ state.users.rows,
      user.id ≠ Identifier.generated (state.identifiers + 1)) :
    ∃ user after, Reachable service after ∧ user.Fits service (column.only name) ∧
      user.id = Identifier.generated (state.identifiers + 1) ∧
      after.users = { rows := state.users.rows ++ [user] } ∧
      after.identifiers = state.identifiers + 1 := by
  obtain ⟨user, hfits, hid, hcreate⟩ :=
    create_only service state column hadmits.1 hfailing hunseen hnew
  have hnext := hreach.call (.create (column.only name)) hadmits.accepted
  simp only [UserCall.run, after_bind, hcreate, after_pure] at hnext
  exact ⟨user, _, hnext, hfits, hid, rfl, rfl⟩

/-- A second name can be registered when it does not find the first user. -/
theorem register_two
    (service : Service) {column other : LoginColumn} {a b : String}
    (ha : column.Admits a) (hb : other.Admits b)
    (hunseen : ∀ user : User, user.Fits service (column.only a) →
      asciiLower (other.of user) ≠ lower b) :
    ∃ first second state, Reachable service state ∧
      state.users = { rows := [first, second] } ∧
      first.Fits service (column.only a) ∧ second.Fits service (other.only b) ∧
      first.id ≠ second.id := by
  have hempty : Reachable service {} := .empty
  obtain ⟨first, middle, hmiddle, hfirst, hfirstId, hrows, hcount⟩ :=
    hempty.register ha rfl (by simp) (by simp)
  have hids : Identifier.generated (0 + 1) ≠ Identifier.generated (1 + 1) := by
    decide
  obtain ⟨second, state, hreach, hsecond, hsecondId, husers, _⟩ :=
    hmiddle.register hb (by rw [hrows]) (by simpa [hrows] using hunseen first hfirst)
      (by simpa [hrows, hcount, hfirstId] using hids)
  refine ⟨first, second, state, hreach, ?_, hfirst, hsecond, ?_⟩
  · rw [husers, hrows]
    rfl
  · rw [hfirstId, hsecondId, hcount]
    exact hids

/-- After a name that the lookup does not see, any name that is equal to it up
to case can be registered. -/
theorem twoHold_of_not_foldsInAscii
    (service : Service) {column : LoginColumn} {a b : String}
    (hfirst : column.Admits a) (hsecond : column.Admits b)
    (hsame : lower a = lower b) (hfolds : ¬ FoldsInAscii a) :
    ∃ state, Reachable service state ∧ column.TwoHold state.users.rows a b := by
  obtain ⟨first, second, state, hreach, husers, hfirstFits, hsecondFits, hids⟩ :=
    register_two service hfirst hsecond fun user hfits => by
      rw [hfits.of_only, ← hsame]
      exact hfolds
  refine ⟨state, hreach, first, ?_, second, ?_, hids, hfirstFits.of_only,
    hsecondFits.of_only⟩
  · simp [husers]
  · simp [husers]

/-- Two users can hold names that are equal up to case exactly when forms
admit the names and one of them does not fold in ASCII. -/
theorem equal_names_held_iff
    (service : Service) (column : LoginColumn) (a b : String) :
    (∃ state, Reachable service state ∧ column.TwoHold state.users.rows a b ∧
        a ≠ "" ∧ b ≠ "" ∧ lower a = lower b) ↔
      column.Admits a ∧ column.Admits b ∧ lower a = lower b ∧
        ¬ (FoldsInAscii a ∧ FoldsInAscii b) := by
  constructor
  · rintro ⟨state, hreach, ⟨first, hfirst, second, hsecond, hids, rfl, rfl⟩, ha, hb, hsame⟩
    have hconsistent := hreach.consistent
    refine ⟨hconsistent.admitted first hfirst column ha,
      hconsistent.admitted second hsecond column hb, hsame, ?_⟩
    intro hfolds
    exact hconsistent.no_clash first hfirst second hsecond hids column
      ⟨ha, hb, hsame, hfolds.1, hfolds.2⟩
  · rintro ⟨ha, hb, hsame, hfolds⟩
    by_cases hfirst : FoldsInAscii a
    · have hsecond : ¬ FoldsInAscii b := by
        intro hsecond
        exact hfolds ⟨hfirst, hsecond⟩
      obtain ⟨state, hreach, second, hsecondRow, first, hfirstRow, hids, hb', ha'⟩ :=
        twoHold_of_not_foldsInAscii service hb ha hsame.symm hsecond
      exact ⟨state, hreach,
        ⟨first, hfirstRow, second, hsecondRow, hids.symm, ha', hb'⟩, ha.1, hb.1, hsame⟩
    · obtain ⟨state, hreach, hheld⟩ :=
        twoHold_of_not_foldsInAscii service ha hb hsame hfirst
      exact ⟨state, hreach, hheld, ha.1, hb.1, hsame⟩

/-- Usernames are not unique: a capital letter with an accent can be registered
twice. -/
theorem accented_username_held_twice :
    ¬ ∀ state, Reachable .plain state →
      ∀ first ∈ state.users.rows, ∀ second ∈ state.users.rows,
        first.id ≠ second.id → first.username ≠ "" → second.username ≠ "" →
          lower first.username ≠ lower second.username := by
  intro hunique
  have hadmits : LoginColumn.username.Admits "É" := by
    refine ⟨by decide, ?_⟩
    intro hcolumn
    cases hcolumn
  have hfolds : ¬ FoldsInAscii "É" := by
    decide +kernel
  obtain ⟨state, hreach, first, hfirst, second, hsecond, hids, hfirstName, hsecondName⟩ :=
    twoHold_of_not_foldsInAscii .plain hadmits hadmits rfl hfolds
  change first.username = "É" at hfirstName
  change second.username = "É" at hsecondName
  have hdiffer := hunique state hreach first hfirst second hsecond hids
  rw [hfirstName, hsecondName] at hdiffer
  exact hdiffer (by decide) (by decide) rfl

end Users
end Roster
