import Roster.Listing.Request
import Roster.User.Registry
import Roster.Campaign.Registry
import Roster.Proofs.Listing.FilterText
import Roster.Proofs.Listing.WindowText
import Roster.Proofs.Service.Call
import Roster.Proofs.Table.Queries
import Mathlib.Tactic

/-!
# Lists of users and campaigns

A list request whose texts are read holds only numbers that the database takes, whatever it asks
for.  While statements work, the list is refused exactly for a column or a value that is not
acceptable, and fails exactly when the database engine does not come to the end of one of its two
statements.  No list crashes.
-/

namespace Roster

open Outcome

/-! ## Requests that are read -/

namespace Listing

theorem Filter.relation_of_parse {raw : Option String} {filters : List Filter}
    (hparse : Filter.parse raw = .ok filters) :
    ∀ filter ∈ filters, ∃ name, (name, filter.relation) ∈ Relation.operators := by
  rw [Filter.parse_eq] at hparse
  intro filter hfilter
  obtain ⟨token, -, htoken⟩ := (mem_mapM_iff hparse).mp hfilter
  obtain ⟨name, hname, -⟩ := Filter.ofToken_eq_ok_iff.mp htoken
  exact ⟨name, hname⟩

theorem Request.parse_eq_ok {pairs : List (String × String)} {request : Request}
    (hparse : Request.parse pairs = .ok request) :
    Window.parse (Query.first? pairs "page") (Query.first? pairs "pageSize") =
        .ok request.window ∧
      SortKey.parse (Query.first? pairs "sort") = .ok request.sort ∧
      Filter.parse (Query.first? pairs "filter") = .ok request.filters := by
  unfold Request.parse at hparse
  obtain ⟨window, hwindow, hparse⟩ := bind_eq_ok_iff.mp hparse
  obtain ⟨sort, hsort, hparse⟩ := bind_eq_ok_iff.mp hparse
  obtain ⟨filters, hfilters, hparse⟩ := bind_eq_ok_iff.mp hparse
  cases hparse
  exact ⟨hwindow, hsort, hfilters⟩

end Listing

/-- Every number that a statement of the query holds fits 64 bits. -/
structure Schema.InRange {ρ : Type} (schema : Schema ρ) (request : Listing.Request) : Prop where
  offset : fitsInt64 request.window.offset = true
  limit : fitsInt64 request.window.pageSize = true
  compared : ∀ filter ∈ request.filters, ∀ column condition,
    schema.Offers filter.column column →
      Condition.ofRelation column.kind filter.relation filter.value = .ok condition →
        condition.Storable

theorem Schema.IsPlain.inRange {ρ : Type} {schema : Schema ρ} (hplain : schema.IsPlain)
    {pairs : List (String × String)} {request : Listing.Request}
    (hparse : Listing.Request.parse pairs = .ok request) : schema.InRange request := by
  obtain ⟨hwindow, -, -⟩ := Listing.Request.parse_eq_ok hparse
  obtain ⟨⟨_, _, _, hpage⟩, ⟨_, _, _, hsize⟩, hallowed⟩ :=
    Listing.Window.parse_eq_ok_iff.mp hwindow
  refine ⟨Listing.Window.fitsInt64_offset hpage hallowed, hsize, ?_⟩
  intro filter _ column condition hoffers hcondition
  have hdecided :=
    Condition.decides_ofRelation (hplain.kinds column hoffers.mem) filter.relation filter.value
  exact (hdecided.of_eq_ok hcondition).2

theorem User.schema_isPlain : User.schema.IsPlain := by
  decide

theorem Campaign.schema_isPlain : Campaign.schema.IsPlain := by
  decide

theorem User.offers_username :
    ∃ column, User.schema.Offers "username" column ∧ column.kind = .text :=
  ⟨_, (Schema.column_eq_ok_iff User.schema_isPlain).mp rfl, rfl⟩

/-! ## Lists -/

open Call

/-- How a list comes out while statements work: it is refused when the request is not acceptable,
it fails when the engine does not serve it, and else it is a page. -/
structure Settled {ρ α : Type} (engine : Engine) (schema : Schema ρ) (subject : Subject)
    (request : Listing.Request) (table : Table ρ) (outcome : Except Failure (Page α)) : Prop where
  refused : (∃ error, outcome = .error (.refused (.badQuery error))) ↔ ¬ schema.Accepts request
  failed : outcome = .error (.refused (.storage .list subject)) ↔
    schema.Accepts request ∧ ¬ ∃ tests, table.Serves engine schema request tests
  answered : (∃ page, outcome = .ok page) ↔
    schema.Accepts request ∧ ∃ tests, table.Serves engine schema request tests
  upright : ∀ crash, outcome ≠ .error (.crashed crash)

theorem settled_ask
    {ρ α : Type} {engine : Engine} {schema : Schema ρ} {request : Listing.Request} {state : State}
    (shelf : Shelf ρ) (change : Page ρ → Page α)
    (hpaging : (shelf.table state).Paging engine schema request
      ((shelf.table state).page engine schema request)) :
    Settled engine schema shelf.subject request (shelf.table state)
      ((ask shelf .list (Table.page engine schema request) >>= fun page =>
        pure (change page)).after state).1 := by
  rw [after_bind, after_ask]
  generalize (shelf.table state).page engine schema request = result at hpaging
  cases hpaging with
  | invalid name hrefused =>
      constructor <;> simp [Failure.ofStore, hrefused]
  | stopped haccepts hstops =>
      constructor <;> simp [Failure.ofStore, haccepts, hstops]
  | page page haccepts hserves =>
      constructor <;> simp [haccepts, hserves]

variable {state : State} {request : Listing.Request}

theorem Users.list_settled (service : Service) (hselect : .select ∉ state.users.failing)
    (hrange : User.schema.InRange request) :
    Settled service.engine User.schema .user request state.users
      ((Users.list service request).after state).1 :=
  settled_ask .users (Page.map User.view)
    (Table.paging_page hselect User.schema_isPlain hrange.offset hrange.limit)

theorem Campaigns.list_settled (service : Service) (hselect : .select ∉ state.campaigns.failing)
    (hrange : Campaign.schema.InRange request) :
    Settled service.engine Campaign.schema .campaign request state.campaigns
      ((Campaigns.list service request).after state).1 := by
  have hsteps : Campaigns.list service request =
      (ask .campaigns .list (Table.page service.engine Campaign.schema request) >>= fun page =>
        pure (id page)) := (bind_pure _).symm
  rw [hsteps]
  exact settled_ask .campaigns id
    (Table.paging_page hselect Campaign.schema_isPlain hrange.offset hrange.limit)

def namedAdaOrBob : Listing.Request where
  window := { page := 1, pageSize := 5 }
  sort := none
  filters := [⟨"username", "ada,bob", .oneOf⟩]

def anyAda : Listing.Filter where
  column := "username"
  value := "ada"
  relation := .equal

/-- A text over and over. -/
def repeatedText (separator : Char) (part : String) (count : Nat) : String :=
  String.ofList (joinPieces separator (List.replicate count part.toList))

theorem pieces_repeatedText {separator : Char} {part : String} (hfree : separator ∉ part.toList)
    {count : Nat} (hcount : count ≠ 0) :
    pieces separator (repeatedText separator part count).toList =
      List.replicate count part.toList := by
  have hparts : ∀ piece ∈ List.replicate count part.toList, separator ∉ piece := by
    intro piece hpiece
    rwa [List.eq_of_mem_replicate hpiece]
  unfold repeatedText
  rw [String.toList_ofList]
  exact pieces_joinPieces (by simpa using hcount) hparts

theorem parse_repeatedText {count : Nat} (hcount : count ≠ 0) :
    Listing.Filter.parse (some (repeatedText '|' "username:ada:eq" count)) =
      .ok (List.replicate count anyAda) := by
  unfold Listing.Filter.parse
  rw [Option.getD_some, pieces_repeatedText (by decide) hcount, List.filter_replicate]
  exact mapM_replicate (by decide) count

theorem tests_anyAda (count : Nat) :
    ∃ test : Test User, Engine.heights test.condition = [3] ∧
      User.schema.tests (List.replicate count anyAda) = .ok (List.replicate count test) := by
  obtain ⟨test, htest, hheights⟩ : ∃ test, User.schema.test anyAda = .ok test ∧
      Engine.heights test.condition = [3] := ⟨_, rfl, rfl⟩
  exact ⟨test, hheights, mapM_replicate htest count⟩

/-- The standard engine refuses to count what passes 999 filters. -/
theorem not_serves_anyAda (window : Listing.Window) (table : Table User) :
    ¬ ∃ tests, table.Serves .standard User.schema ⟨window, none, List.replicate 999 anyAda⟩
      tests := by
  rintro ⟨tests, hserves⟩
  obtain ⟨test, hheights, htests⟩ := tests_anyAda 999
  obtain rfl := Except.ok.inj (hserves.filtered.symm.trans htests)
  have hhigh : Test.TooHigh (List.replicate 999 test) :=
    Test.tooHigh_replicate hheights (by decide)
  exact hhigh.not_bears rfl table hserves.counted

end Roster
