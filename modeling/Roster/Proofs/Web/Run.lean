import Roster.Proofs.Service.Numbering
import Roster.Proofs.Web.Requests
import Mathlib.Tactic

/-!
# Runs of the service

A run is a sequence of requests and calls, where any kind of statement may start or stop failing in
between.  Each row of a later state can be traced back: its identifier was in use at the start, or
has been given out since, and each of its names was there at the start, or was brought by a call of
the run.  This account holds of single steps and composes, so it holds of whole runs.
-/

namespace Roster

/-- One of the two names in the credentials is the name. -/
def Credentials.Names (name : String) (credentials : Credentials) : Prop :=
  ∃ column : LoginColumn, column.ofCredentials credentials = LooseText.ofString name

/-- The call may write the name to a row. -/
def ServiceCall.Brings (name : String) : ServiceCall → Prop
  | .users call => ∃ credentials, call.written? = some credentials ∧ credentials.Names name
  | .campaigns _ => False

namespace Web

inductive Happening where
  | called (call : ServiceCall)
  | requested (now : Moment) (request : Request)
  /-- From now on the statements of these kinds fail on the two tables. -/
  | switched (users campaigns : List Statement)

/-- The happening may write the name to a row. -/
def Happening.Brings (name : String) : Happening → Prop
  | .called call => call.Brings name
  | .requested now request => ∃ call, request.call? now = some call ∧ call.Brings name
  | .switched _ _ => False

namespace Server

def next (server : Server) (state : State) : Happening → State
  | .called call => call.leave server.service state
  | .requested now request => (server.respond now request state).2
  | .switched users campaigns => { state with
      users := { state.users with failing := users }
      campaigns := { state.campaigns with failing := campaigns } }

def history (server : Server) (start : State) (happenings : List Happening) : State :=
  happenings.foldl server.next start

theorem history_append (server : Server) (start : State) (first second : List Happening) :
    server.history start (first ++ second) =
      server.history (server.history start first) second :=
  List.foldl_append

end Server
end Web

/-! ## Where rows come from -/

/-- The rows of a later state, traced back: identifiers are old ones or new ones, and names are old
ones of the row or have been brought. -/
structure Stems (brought : String → Prop) (before after : State) : Prop where
  counted : before.identifiers ≤ after.identifiers
  ids : ∀ user ∈ after.users.rows,
    (∃ old ∈ before.users.rows, old.id = user.id) ∨
      ∃ number, before.identifiers < number ∧ number ≤ after.identifiers ∧
        user.id = Identifier.generated number
  names : ∀ user ∈ after.users.rows, ∀ column : LoginColumn,
    (∃ old ∈ before.users.rows, old.id = user.id ∧ column.of old = column.of user) ∨
      brought (column.of user)

namespace Stems

variable {brought more : String → Prop} {first second third before after : State}

theorem of_users (hcounted : before.identifiers ≤ after.identifiers)
    (husers : after.users.rows = before.users.rows) : Stems brought before after where
  counted := hcounted
  ids := fun user huser => .inl ⟨user, husers ▸ huser, rfl⟩
  names := fun user huser _ => .inl ⟨user, husers ▸ huser, rfl, rfl⟩

theorem refl (state : State) : Stems brought state state :=
  of_users (Nat.le_refl _) rfl

theorem trans (hfirst : Stems brought first second) (hsecond : Stems more second third) :
    Stems (fun name => brought name ∨ more name) first third := by
  refine ⟨hfirst.counted.trans hsecond.counted, ?_, ?_⟩
  · intro user huser
    rcases hsecond.ids user huser with ⟨middle, hmiddle, hid⟩ | ⟨number, hnew, hlast, hid⟩
    · rcases hfirst.ids middle hmiddle with ⟨old, hold, hsame⟩ | ⟨number, hnew, hlast, hnumber⟩
      · exact .inl ⟨old, hold, hsame.trans hid⟩
      · exact .inr ⟨number, hnew, hlast.trans hsecond.counted, hid.symm.trans hnumber⟩
    · exact .inr ⟨number, hfirst.counted.trans_lt hnew, hlast, hid⟩
  · intro user huser column
    rcases hsecond.names user huser column with ⟨middle, hmiddle, hid, hname⟩ | hmore
    · rcases hfirst.names middle hmiddle column with ⟨old, hold, hsame, hkept⟩ | hbrought
      · exact .inl ⟨old, hold, hsame.trans hid, hkept.trans hname⟩
      · exact .inr (.inl (hname ▸ hbrought))
    · exact .inr (.inr hmore)

theorem mono (hstems : Stems brought before after) (hmore : ∀ name, brought name → more name) :
    Stems more before after where
  counted := hstems.counted
  ids := hstems.ids
  names := fun user huser column => (hstems.names user huser column).imp_right (hmore _)

/-- An identifier that has been given out and is no longer in use never comes back. -/
theorem ne_of_gone {number : Nat} (hstems : Stems brought before after)
    (hused : number ≤ before.identifiers)
    (hgone : ∀ user ∈ before.users.rows, user.id ≠ Identifier.generated number) :
    ∀ user ∈ after.users.rows, user.id ≠ Identifier.generated number := by
  intro user huser hid
  rcases hstems.ids user huser with ⟨old, hold, hsame⟩ | ⟨later, hnew, _, hlater⟩
  · exact hgone old hold (hsame.trans hid)
  · have hnumber : later = number := Identifier.generated_injective (hlater.symm.trans hid)
    omega

end Stems

/-! ## Steps and runs -/

variable {service : Service} {state : State}

theorem UserCall.stems (service : Service) (call : UserCall) (state : State) :
    Stems (ServiceCall.users call).Brings state ((call.run service).after state).2 := by
  have hcounted := call.counts_run service state
  refine ⟨hcounted, ?_, ?_⟩
  · intro user huser
    rcases call.wrote_run service huser with hold | hwrote
    · exact .inl ⟨user, hold, rfl⟩
    · rcases hwrote.id with hold | ⟨hcount, hid⟩
      · exact .inl hold
      · exact .inr ⟨_, Nat.lt_succ_self _, hcount.ge, hid⟩
  · intro user huser column
    rcases call.wrote_run service huser with hold | hwrote
    · exact .inl ⟨user, hold, rfl, rfl⟩
    · obtain ⟨credentials, hwritten, hfits⟩ := hwrote.fits
      exact .inr ⟨credentials, hwritten, column, hfits.ofCredentials column⟩

theorem ServiceCall.stems (service : Service) (call : ServiceCall) (state : State) :
    Stems call.Brings state (call.leave service state) := by
  cases call with
  | users call => exact call.stems service state
  | campaigns call =>
      have husers := call.users_run service state
      exact .of_users (call.counts_run service state) (congrArg Table.rows husers)

namespace Web.Server

variable {server : Server}

theorem stems_next (server : Server) (state : State) (happening : Happening) :
    Stems happening.Brings state (server.next state happening) := by
  cases happening with
  | called call => exact call.stems server.service state
  | requested now request =>
      rcases server.respond_state now request state with hsame | ⟨call, hcall, hleave⟩
      · exact .of_users (congrArg State.identifiers hsame).ge
          (congrArg (fun state => state.users.rows) hsame)
      · have hstems := call.stems server.service state
        rw [← hleave] at hstems
        exact hstems.mono fun name hbrings => ⟨call, hcall, hbrings⟩
  | switched users campaigns => exact .of_users (Nat.le_refl _) rfl

theorem stems_history (server : Server) (start : State) (happenings : List Happening) :
    Stems (fun name => ∃ happening ∈ happenings, happening.Brings name) start
      (server.history start happenings) := by
  induction happenings generalizing start with
  | nil => exact .refl start
  | cons happening rest hrest =>
      refine ((server.stems_next start happening).trans (hrest _)).mono ?_
      rintro name (hbrings | ⟨later, hlater, hbrings⟩)
      · exact ⟨happening, List.mem_cons_self, hbrings⟩
      · exact ⟨later, List.mem_cons_of_mem _ hlater, hbrings⟩

/-- After a run from the empty store every identifier in use has been given out. -/
theorem generated_of_mem_history {happenings : List Happening} {user : User}
    (huser : user ∈ (server.history {} happenings).users.rows) :
    ∃ number ≤ (server.history {} happenings).identifiers,
      user.id = Identifier.generated number := by
  rcases (server.stems_history {} happenings).ids user huser with
    ⟨_, hold, _⟩ | ⟨number, _, hlast, hid⟩
  · cases hold
  · exact ⟨number, hlast, hid⟩

end Web.Server
end Roster
