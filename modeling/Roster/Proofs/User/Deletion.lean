import Roster.Proofs.User.Session
import Roster.Proofs.Web.Run
import Mathlib.Tactic

/-!
# Tokens of deleted users

A token carries a login name and nothing else of its user.  When the user is deleted, the
identifier is gone for good, but the name is free, or was somebody else's email or username all
along.  Whoever holds the name exactly as written is then taken for the bearer of the token until
it expires.
-/

namespace Roster

open Call Outcome Web

/-- One of the two names of the user is the name. -/
def User.Holds (name : String) (user : User) : Prop :=
  ∃ column : LoginColumn, column.of user = name

namespace Users

variable {service : Service} {state : State} {users : Table User} {rows : List User}
  {name token : String} {variant : MacVariant} {issued now : Moment}

/-! ## Who is found by the name in a token -/

theorem bearer?_eq_none_iff :
    bearer? name rows = none ↔ ∀ row ∈ rows, ¬ row.Holds name := by
  unfold bearer?
  rw [Option.or_eq_none_iff, List.find?_eq_none, List.find?_eq_none]
  simp only [decide_eq_true_eq]
  constructor
  · rintro ⟨husername, hemail⟩ row hrow ⟨column, hname⟩
    cases column with
    | username => exact husername row hrow hname
    | email => exact hemail row hrow hname
  · intro hnobody
    exact ⟨fun row hrow hname => hnobody row hrow ⟨.username, hname⟩,
      fun row hrow hname => hnobody row hrow ⟨.email, hname⟩⟩

theorem bearer?_eq_some {bearer : User} (hbearer : bearer? name rows = some bearer) :
    bearer ∈ rows ∧ bearer.Holds name := by
  unfold bearer? at hbearer
  rcases Option.or_eq_some_iff.mp hbearer with hfound | ⟨_, hfound⟩
  · exact ⟨List.mem_of_find?_eq_some hfound, .username, by simpa using List.find?_some hfound⟩
  · exact ⟨List.mem_of_find?_eq_some hfound, .email, by simpa using List.find?_some hfound⟩

theorem holder?_of_failing (hselect : .select ∈ users.failing) (name : LooseText) :
    holder? name users = .error .database := by
  have hattempt : users.attempt .select = .error .database := by
    unfold Table.attempt
    rw [if_pos (by simpa using hselect)]
  unfold holder? Table.bindText
  rw [hattempt]
  rfl

/-! ## What a request with a token comes to -/

theorem after_current_rejected {error : CheckError} {message : LooseText}
    (hcheck : service.signer.check token now = .error error)
    (hrejection : error.rejection? = some message) :
    (current service now (some token)).after state =
      (.error (.refused (.unauthenticated (.rejected message))), state) := by
  unfold current
  simp only [hcheck, hrejection]
  rfl

theorem after_current_crashed {accepted : AcceptedToken}
    (hcheck : service.signer.check token now = .ok accepted)
    (hselect : .select ∈ state.users.failing) :
    (current service now (some token)).after state =
      (.error (.crashed (.store .database)), state) := by
  unfold current
  simp only [hcheck, after_bind, after_get, holder?_of_failing hselect]
  rfl

section Issued

variable (halgorithm : Algorithm.ofName service.signer.algorithm = .mac variant)
  (hname : name ≠ "") (hissue : service.signer.issue name issued = .ok token)

include halgorithm hname hissue

/-- A request with an issued token is refused outside its lifetime, and within it when the tables
can be read and nobody has the name. -/
theorem current_unauthenticated_iff :
    (∃ cause, (current service now (some token)).after state =
        (.error (.refused (.unauthenticated cause)), state)) ↔
      now.second < issued.written ∨ (service.signer.deadline issued).written ≤ now.second ∨
        .select ∉ state.users.failing ∧ ∀ row ∈ state.users.rows, ¬ row.Holds name := by
  have hcheck : service.signer.check token now = _ :=
    Signer.check_issued halgorithm hname hissue
  by_cases hearly : now.second < issued.written
  · rw [if_pos hearly] at hcheck
    exact ⟨fun _ => .inl hearly, fun _ => ⟨_, after_current_rejected hcheck rfl⟩⟩
  by_cases hlate : (service.signer.deadline issued).written ≤ now.second
  · rw [if_neg hearly, if_pos hlate] at hcheck
    exact ⟨fun _ => .inr (.inl hlate), fun _ => ⟨_, after_current_rejected hcheck rfl⟩⟩
  rw [if_neg hearly, if_neg hlate] at hcheck
  simp only [hearly, hlate, false_or]
  by_cases hselect : .select ∈ state.users.failing
  · rw [after_current_crashed hcheck hselect]
    simp [hselect]
  · rw [after_current hcheck hselect, ← bearer?_eq_none_iff]
    cases bearer? name state.users.rows with
    | none => simp [hselect]
    | some bearer => simp

/-- Whoever makes a request with an issued token has the name. -/
theorem current_holds_name {bearer : User}
    (hcurrent : (current service now (some token)).after state = (.ok bearer, state)) :
    bearer ∈ state.users.rows ∧ bearer.Holds name := by
  have hcheck : service.signer.check token now = _ :=
    Signer.check_issued halgorithm hname hissue
  split_ifs at hcheck with hearly hlate
  · rw [after_current_rejected hcheck rfl] at hcurrent
    cases hcurrent
  · rw [after_current_rejected hcheck rfl] at hcurrent
    cases hcurrent
  · by_cases hselect : .select ∈ state.users.failing
    · rw [after_current_crashed hcheck hselect] at hcurrent
      cases hcurrent
    · rw [after_current hcheck hselect] at hcurrent
      cases hbearer : bearer? name state.users.rows with
      | none =>
          rw [hbearer] at hcurrent
          cases hcurrent
      | some found =>
          rw [hbearer] at hcurrent
          cases hcurrent
          exact bearer?_eq_some hbearer

end Issued

/-! ## Joining and leaving -/

def ada : Credentials :=
  LoginColumn.username.only "ada"

def joining : List Happening :=
  [.called (.users (.create ada))]

def leaving : List Happening :=
  [.called (.users (.delete (Identifier.generated 1)))]

theorem history_joining (state : State) (hfailing : state.users.failing = [])
    (hempty : state.users.rows = []) :
    ∃ user : User, user.Fits .plain ada ∧
      user.id = Identifier.generated (state.identifiers + 1) ∧
      Server.exampleServer.history state joining = { state with
        users := { rows := [user] }
        identifiers := state.identifiers + 1
        salts := state.salts + 1 } := by
  obtain ⟨user, hfits, hid, hcreate⟩ := create_only .plain state .username
    (show "ada" ≠ "" by decide) hfailing (by simp [hempty]) (by simp [hempty])
  refine ⟨user, hfits, hid, ?_⟩
  rw [hempty] at hcreate
  change (((UserCall.create ada).run .plain).after state).2 = _
  rw [UserCall.run, after_bind_pure_snd]
  exact congrArg Prod.snd hcreate

theorem history_leaving {user : User} (husers : state.users = { rows := [user] })
    (hid : user.id = Identifier.generated 1) :
    Server.exampleServer.history state leaving = { state with users := {} } := by
  have hspelled : Identifier.isSpelling (Identifier.generated 1) = true := by
    decide +kernel
  have hworks : ∀ statement, statement ∉ state.users.failing := by
    simp [husers]
  have hdelete := delete_total hspelled (hworks .select) (hworks .delete)
  have hrest : state.users.rows.filter (fun user => user.id ≠ Identifier.generated 1) = [] := by
    simp [husers, hid]
  rw [hrest, husers] at hdelete
  change (((UserCall.delete (Identifier.generated 1)).run .plain).after state).2 = _
  rw [UserCall.run, after_bind_pure_snd]
  exact congrArg Prod.snd hdelete

/-- A user registers, logs in and is deleted. -/
theorem joined_and_left :
    ∃ (user : User) (answer : LoginAnswer),
      named ada (Server.exampleServer.history {} joining).users = .ok (some user) ∧
        ((login .plain 0 ada).after (Server.exampleServer.history {} joining)).1 = .ok answer ∧
        Service.plain.signer.issue user.loginName 0 = .ok answer.token ∧
        user.loginName = "ada" ∧
        Server.exampleServer.history {} (joining ++ leaving) =
          { identifiers := 1, salts := 1 } := by
  obtain ⟨user, hfits, hid, hjoined⟩ := history_joining {} rfl rfl
  rw [Server.history_append]
  generalize Server.exampleServer.history {} joining = store at hjoined ⊢
  have husers : store.users = { rows := [user] } := by
    rw [hjoined]
  have hselect : .select ∉ store.users.failing := by
    rw [husers]
    exact List.not_mem_nil
  have hfind : store.users.rows.find? (fun row =>
      asciiLower (LoginColumn.username.of row) = lower "ada") = some user := by
    have hfolds : asciiLower "ada" = lower "ada" := by
      decide +kernel
    have hfolded : asciiLower (LoginColumn.username.of user) = lower "ada" := by
      rw [hfits.of_only]
      exact hfolds
    simp [husers, hfolded]
  have hfound : named ada store.users = .ok (some user) := by
    rw [ada, named_only (by decide) hselect, hfind]
  obtain ⟨token, hissue, hlogin⟩ := login_plain (by decide) hselect hfits hfind
  have hname : user.loginName = "ada" := by
    have husername : user.username = "ada" := hfits.of_only
    rw [User.loginName_of_ne (by rw [husername]; decide), husername]
  refine ⟨user, ⟨user.loginName, token⟩, hfound, congrArg Prod.fst hlogin, hissue, hname, ?_⟩
  rw [history_leaving husers hid, hjoined]

/-! ## What becomes of a token after a deletion -/

/-- Once the user of a token is gone, the identifier never comes back, and the token is refused
exactly outside its lifetime and as long as nobody holds the name in it.  Otherwise it is taken for
another user, who has held the name since before or has got it from a later call. -/
theorem deleted_user_token_refused_iff
    (server : Server) (before between after : List Happening)
    {credentials : Credentials} {answer : LoginAnswer} {user : User}
    (halgorithm : Algorithm.ofName server.service.signer.algorithm = .mac variant)
    (hfound : named credentials (server.history {} before).users = .ok (some user))
    (hlogin : ((login server.service issued credentials).after
      (server.history {} before)).1 = .ok answer)
    (hgone : ∀ row ∈ (server.history {} (before ++ between)).users.rows, row.id ≠ user.id) :
    let gone := server.history {} (before ++ between)
    let later := server.history gone after
    (∀ row ∈ later.users.rows, row.id ≠ user.id) ∧
      (∀ row ∈ later.users.rows, row.Holds user.loginName →
        (∃ old ∈ gone.users.rows, old.id = row.id ∧ old.Holds user.loginName) ∨
          ∃ happening ∈ after, happening.Brings user.loginName) ∧
      ∀ now,
        ((∃ cause, (current server.service now (some answer.token)).after later =
            (.error (.refused (.unauthenticated cause)), later)) ↔
          now.second < issued.written ∨
            (server.service.signer.deadline issued).written ≤ now.second ∨
            .select ∉ later.users.failing ∧
              ∀ row ∈ later.users.rows, ¬ row.Holds user.loginName) ∧
        ∀ bearer, (current server.service now (some answer.token)).after later =
            (.ok bearer, later) →
          bearer ∈ later.users.rows ∧ bearer.id ≠ user.id ∧ bearer.Holds user.loginName := by
  intro gone later
  obtain ⟨column, _, huser, hname, _⟩ := first_of_named hfound
  have hissue : server.service.signer.issue user.loginName issued = .ok answer.token := by
    obtain ⟨found, hsame, _, _, hissue, _⟩ := login_ok (Prod.ext hlogin rfl)
    rw [hfound] at hsame
    cases hsame
    exact hissue
  have hloginName := User.loginName_ne_empty hname
  obtain ⟨number, hused, hid⟩ := Server.generated_of_mem_history huser
  have hbetween := server.stems_history (server.history {} before) between
  rw [← Server.history_append] at hbetween
  have hafter := server.stems_history gone after
  have hnever : ∀ row ∈ later.users.rows, row.id ≠ user.id := by
    rw [hid] at hgone ⊢
    exact hafter.ne_of_gone (hused.trans hbetween.counted) hgone
  refine ⟨hnever, ?_, ?_⟩
  · rintro row hrow ⟨column, hholds⟩
    rcases hafter.names row hrow column with ⟨old, hold, hsame, hkept⟩ | hbrought
    · exact .inl ⟨old, hold, hsame, column, hkept.trans hholds⟩
    · exact .inr (hholds ▸ hbrought)
  · intro now
    refine ⟨current_unauthenticated_iff halgorithm hloginName hissue, ?_⟩
    intro bearer hcurrent
    obtain ⟨hbearer, hholds⟩ := current_holds_name halgorithm hloginName hissue hcurrent
    exact ⟨hbearer, hnever bearer hbearer, hholds⟩

theorem deleted_user_token_refused_iff_ada :
    ∃ token cause,
      (current .plain 0 (some token)).after
          (Server.exampleServer.history {} (joining ++ leaving)) =
        (.error (.refused (.unauthenticated cause)),
          Server.exampleServer.history {} (joining ++ leaving)) := by
  obtain ⟨user, answer, hfound, hlogin, _, _, hleft⟩ := joined_and_left
  have hgone : ∀ row ∈ (Server.exampleServer.history {} (joining ++ leaving)).users.rows,
      row.id ≠ user.id := by
    rw [hleft]
    intro row hrow
    cases hrow
  obtain ⟨_, _, houtcome⟩ := deleted_user_token_refused_iff Server.exampleServer joining leaving []
    rfl hfound hlogin hgone
  obtain ⟨cause, hcause⟩ := (houtcome 0).1.mpr (.inr (.inr (by
    rw [hleft]
    exact ⟨List.not_mem_nil, fun row hrow => by cases hrow⟩)))
  exact ⟨answer.token, cause, hcause⟩

/-- The token of a deleted user works again once the name has been registered again. -/
theorem registered_again_takes_token :
    ¬ ∀ (before between after : List Happening) (credentials : Credentials)
        (answer : LoginAnswer) (user : User) (now : Moment),
      named credentials (Server.exampleServer.history {} before).users = .ok (some user) →
        ((login .plain 0 credentials).after (Server.exampleServer.history {} before)).1 =
          .ok answer →
        (∀ row ∈ (Server.exampleServer.history {} (before ++ between)).users.rows,
          row.id ≠ user.id) →
        ∃ cause, (current .plain now (some answer.token)).after
            (Server.exampleServer.history {} (before ++ between ++ after)) =
          (.error (.refused (.unauthenticated cause)),
            Server.exampleServer.history {} (before ++ between ++ after)) := by
  intro hrefused
  obtain ⟨user, answer, hfound, hlogin, hissue, hname, hleft⟩ := joined_and_left
  have hgone : ∀ row ∈ (Server.exampleServer.history {} (joining ++ leaving)).users.rows,
      row.id ≠ user.id := by
    rw [hleft]
    intro row hrow
    cases hrow
  obtain ⟨cause, hcause⟩ := hrefused joining leaving joining ada answer user 0 hfound hlogin hgone
  obtain ⟨other, hfits, _, hjoined⟩ := history_joining { identifiers := 1, salts := 1 } rfl rfl
  have hother : other.username = "ada" := hfits.of_only
  have hcheck : Service.plain.signer.check answer.token 0 =
      .ok ⟨LooseText.ofString user.loginName, answer.token⟩ := by
    have halgorithm : Algorithm.ofName Service.plain.signer.algorithm = .mac .hs256 := rfl
    rw [Signer.check_issued halgorithm (by rw [hname]; decide) hissue,
      if_neg (by decide +kernel), if_neg (by decide +kernel)]
  rw [Server.history_append, hleft, hjoined, after_current hcheck List.not_mem_nil] at hcause
  have hleads : bearer? user.loginName [other] = some other := by
    unfold bearer?
    simp [hname, hother, LoginColumn.of]
  simp only [hleads] at hcause
  cases hcause

end Users
end Roster
