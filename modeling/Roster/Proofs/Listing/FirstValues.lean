import Roster.Listing.Request
import Roster.Proofs.Outcome
import Mathlib.Logic.Relation
import Mathlib.Tactic

/-!
# Only the first value of a name counts

A list request is read from four names.  Of a query with repeated names, each of the four has at
most one value that counts, the first one, and a mapping gives at most one anyway.  Requests with
the same values that count are read alike, with the same fault if they are faulty.  So a query can
be given further pairs of its own names or pairs of other names, and pairs of different names can
change places, as often as one likes.
-/

namespace Roster.Listing

open Outcome

/-- The names that a list request is read from. -/
def parameterNames : List String :=
  ["page", "pageSize", "sort", "filter"]

namespace Parameters

variable {first second third : Parameters} {name value : String}

/-! ## The value that counts -/

/-- The name has a value, and this is the first one. -/
inductive Gives : Parameters → String → String → Prop where
  | query {before after : List (String × String)} {name value : String}
      (hfirst : ∀ pair ∈ before, pair.1 ≠ name) :
      Gives (.query (before ++ (name, value) :: after)) name value
  | mapping {value? : String → Option String} {name value : String}
      (hvalue : value? name = some value) : Gives (.mapping value?) name value

theorem first?_query_eq_some_iff {pairs : List (String × String)} :
    Query.first? pairs name = some value ↔
      ∃ before after, pairs = before ++ (name, value) :: after ∧
        ∀ pair ∈ before, pair.1 ≠ name := by
  unfold Query.first?
  rw [Option.map_eq_some_iff]
  constructor
  · rintro ⟨⟨found, value⟩, hfind, rfl⟩
    obtain ⟨hname, before, after, hpairs, hbefore⟩ := List.find?_eq_some_iff_append.mp hfind
    obtain rfl : found = name := by simpa using hname
    exact ⟨before, after, hpairs, fun pair hpair => by simpa using hbefore pair hpair⟩
  · rintro ⟨before, after, hpairs, hbefore⟩
    refine ⟨(name, value), List.find?_eq_some_iff_append.mpr ?_, rfl⟩
    exact ⟨by simp, before, after, hpairs, fun pair hpair => by simpa using hbefore pair hpair⟩

theorem first?_eq_some_iff : first.first? name = some value ↔ first.Gives name value := by
  cases first with
  | query pairs =>
      constructor
      · intro hfound
        obtain ⟨before, after, rfl, hfirst⟩ := first?_query_eq_some_iff.mp hfound
        exact .query hfirst
      · rintro ⟨hfirst⟩
        exact first?_query_eq_some_iff.mpr ⟨_, _, rfl, hfirst⟩
  | mapping value? =>
      constructor
      · exact .mapping
      · rintro ⟨⟩
        assumption

/-- The two have the same of the four names, with the same values that count. -/
def Agree (first second : Parameters) : Prop :=
  ∀ name ∈ parameterNames, ∀ value, first.Gives name value ↔ second.Gives name value

theorem agree_iff :
    first.Agree second ↔ ∀ name ∈ parameterNames, first.first? name = second.first? name := by
  constructor
  · intro hagree name hname
    apply Option.ext
    intro value
    rw [first?_eq_some_iff, first?_eq_some_iff, hagree name hname value]
  · intro hsame name hname value
    rw [← first?_eq_some_iff, ← first?_eq_some_iff, hsame name hname]

theorem Agree.refl (parameters : Parameters) : parameters.Agree parameters :=
  fun _ _ _ => Iff.rfl

theorem Agree.symm (hagree : first.Agree second) : second.Agree first :=
  fun name hname value => (hagree name hname value).symm

theorem Agree.trans (hfirst : first.Agree second) (hsecond : second.Agree third) :
    first.Agree third :=
  fun name hname value => (hfirst name hname value).trans (hsecond name hname value)

/-- Nothing else of the parameters is read. -/
theorem Agree.ofParameters_eq (hagree : first.Agree second) :
    Request.ofParameters first = Request.ofParameters second := by
  have hsame := agree_iff.mp hagree
  unfold Request.ofParameters
  rw [hsame "page" (by decide), hsame "pageSize" (by decide), hsame "sort" (by decide),
    hsame "filter" (by decide)]

end Parameters

/-! ## Edits of a query -/

/-- A change of the pairs of a query that keeps the first value of each of the four names. -/
inductive Edit : List (String × String) → List (String × String) → Prop where
  | foreign {front back : List (String × String)} {pair : String × String}
      (hforeign : pair.1 ∉ parameterNames) : Edit (front ++ back) (front ++ pair :: back)
  | repeated {front back : List (String × String)} {pair : String × String}
      (hearlier : ∃ earlier ∈ front, earlier.1 = pair.1) :
      Edit (front ++ back) (front ++ pair :: back)
  /-- The pairs of every one name keep their order. -/
  | reordered {pairs others : List (String × String)}
      (hsame : ∀ name, pairs.filter (·.1 == name) = others.filter (·.1 == name)) :
      Edit pairs others

theorem Edit.first?_eq {pairs others : List (String × String)} (hedit : Edit pairs others)
    {name : String} (hname : name ∈ parameterNames) :
    Query.first? pairs name = Query.first? others name := by
  have hfind : pairs.find? (·.1 == name) = others.find? (·.1 == name) := by
    cases hedit with
    | @foreign front back pair hforeign =>
        have hpair : pair.1 ≠ name := by
          rintro rfl
          exact hforeign hname
        simp [List.find?_append, hpair]
    | @repeated front back pair hearlier =>
        rw [List.find?_append, List.find?_append]
        by_cases hpair : pair.1 = name
        · obtain ⟨earlier, hmem, hsame⟩ := hearlier
          have hsome : (front.find? (·.1 == name)).isSome := by
            rw [List.find?_isSome]
            exact ⟨earlier, hmem, by simp [hsame, hpair]⟩
          rw [Option.or_of_isSome hsome, Option.or_of_isSome hsome]
        · simp [hpair]
    | reordered hsame => rw [← List.head?_filter, ← List.head?_filter, hsame name]
  unfold Query.first?
  rw [hfind]

theorem Edit.agree {pairs others : List (String × String)} (hedit : Edit pairs others) :
    (Parameters.query pairs).Agree (.query others) :=
  Parameters.agree_iff.mpr fun _ hname => hedit.first?_eq hname

/-- Any number of edits, done or undone, keeps the values that count. -/
theorem agree_of_edits {pairs others : List (String × String)}
    (hedits : Relation.EqvGen Edit pairs others) :
    (Parameters.query pairs).Agree (.query others) := by
  induction hedits with
  | rel pairs others hedit => exact hedit.agree
  | refl pairs => exact .refl _
  | symm pairs others _ ih => exact ih.symm
  | trans pairs between others _ _ hbefore hafter => exact hbefore.trans hafter

/-! ## The fault that is reported -/

/-- The window is read first, then the sort key, and the filters come last. -/
inductive FirstFault (parameters : Parameters) : Error → Prop where
  | window {error : Error}
      (hwindow : Window.parse (parameters.first? "page") (parameters.first? "pageSize") =
        .error error) :
      FirstFault parameters error
  | sort {error : Error}
      (hwindow : ∃ window,
        Window.parse (parameters.first? "page") (parameters.first? "pageSize") = .ok window)
      (hsort : SortKey.parse (parameters.first? "sort") = .error error) :
      FirstFault parameters error
  | filter {error : Error}
      (hwindow : ∃ window,
        Window.parse (parameters.first? "page") (parameters.first? "pageSize") = .ok window)
      (hsort : ∃ sort, SortKey.parse (parameters.first? "sort") = .ok sort)
      (hfilter : Filter.parse (parameters.first? "filter") = .error error) :
      FirstFault parameters error

theorem ofParameters_eq_error_iff {parameters : Parameters} {error : Error} :
    Request.ofParameters parameters = .error error ↔ FirstFault parameters error := by
  unfold Request.ofParameters
  constructor
  · intro herror
    rcases bind_eq_error_iff.mp herror with hwindow | ⟨window, hwindow, herror⟩
    · exact .window hwindow
    · rcases bind_eq_error_iff.mp herror with hsort | ⟨sort, hsort, herror⟩
      · exact .sort ⟨window, hwindow⟩ hsort
      · rcases bind_eq_error_iff.mp herror with hfilter | ⟨filters, -, hdone⟩
        · exact .filter ⟨window, hwindow⟩ ⟨sort, hsort⟩ hfilter
        · cases hdone
  · rintro (hwindow | ⟨⟨window, hwindow⟩, hsort⟩ | ⟨⟨window, hwindow⟩, ⟨sort, hsort⟩, hfilter⟩)
    · rw [hwindow]
      rfl
    · rw [hwindow, ok_bind, hsort]
      rfl
    · rw [hwindow, ok_bind, hsort, ok_bind, hfilter]
      rfl

/-- Parameters with the same first values are read alike, edits of a query make no difference, and
the fault that is reported is that of the window before that of the sort key before that of the
filters. -/
theorem only_first_values_count :
    (∀ first second : Parameters, first.Agree second →
        Request.ofParameters first = Request.ofParameters second) ∧
      (∀ pairs others, Relation.EqvGen Edit pairs others →
        Request.parse pairs = Request.parse others) ∧
      ∀ parameters error,
        Request.ofParameters parameters = .error error ↔ FirstFault parameters error := by
  refine ⟨?_, ?_, ?_⟩
  · intro first second hagree
    exact hagree.ofParameters_eq
  · intro pairs others hedits
    exact (agree_of_edits hedits).ofParameters_eq
  · intro parameters error
    exact ofParameters_eq_error_iff

def repeatedQuery : List (String × String) :=
  Query.decode "x=1&p%61ge=2&page=9&sort=id:asc&sort=id:desc"

def plainMapping : String → Option String :=
  fun name => [("sort", "id:asc"), ("page", "2")].lookup name

theorem only_first_values_count_repeated :
    Parameters.Agree (.query repeatedQuery) (.mapping plainMapping) ∧
      Request.ofParameters (.query repeatedQuery) = Request.ofParameters (.mapping plainMapping) ∧
      Relation.EqvGen Edit [("page", "2")] [("page", "2"), ("page", "9")] ∧
      Request.parse [("page", "2")] = Request.parse [("page", "2"), ("page", "9")] := by
  obtain ⟨hagreeing, hedited, -⟩ := only_first_values_count
  have hquery : repeatedQuery =
      [("x", "1"), ("page", "2"), ("page", "9"), ("sort", "id:asc"), ("sort", "id:desc")] := by
    decide +kernel
  have hagree : Parameters.Agree (.query repeatedQuery) (.mapping plainMapping) := by
    rw [Parameters.agree_iff, hquery]
    decide
  have hedit : Edit [("page", "2")] [("page", "2"), ("page", "9")] :=
    @Edit.repeated [("page", "2")] [] ("page", "9") ⟨("page", "2"), List.mem_singleton_self _, rfl⟩
  have hedits := Relation.EqvGen.rel _ _ hedit
  exact ⟨hagree, hagreeing _ _ hagree, hedits, hedited _ _ hedits⟩

end Roster.Listing
