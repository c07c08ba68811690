import Roster.Proofs.Table.Rows
import Roster.User.Record
import Roster.Campaign.Record
import Roster.Service.Failure
import Mathlib.Tactic

/-!
# What operations do to records

The operations of a layout edit the records of a table as operations on typed rows edit these: a
record is appended, put in the place of the one with its key, or dropped.  A record that is written
has the columns of its layout and the key that was asked for, and it shows no difference from the
values that were given, as far as these suit their columns.
-/

namespace Roster

open Outcome

def Subject.layout : Subject → Layout
  | .user => User.layout
  | .campaign => Campaign.layout

/-- A value that the column holds as it is. -/
def Field.Suits (field : Field) : Cell → Prop
  | .null => field.isNullable = true
  | .text _ => field.kind = .text
  | .int _ => field.kind = .integer
  | .real _ => False

namespace Layout

/-- The columns have different names, and the key is a text that has to be given. -/
structure Keyed (layout : Layout) : Prop where
  names : (layout.fields.map (·.name)).Nodup
  key : { name := layout.key, kind := .text } ∈ layout.fields

theorem keyed_layout (subject : Subject) : subject.layout.Keyed := by
  cases subject with
  | user => exact ⟨by decide, List.mem_cons_self⟩
  | campaign => exact ⟨by decide, List.mem_cons_self⟩

/-- The record has the columns of the layout, in their order. -/
def Shapes (layout : Layout) (record : Record) : Prop :=
  record.map Prod.fst = layout.fields.map (·.name)

/-- The record shows no difference from what is given for its columns. -/
def Matches (layout : Layout) (given record : Record) : Prop :=
  ∀ field ∈ layout.fields, ∀ value, given.lookup field.name = some value → field.Suits value →
    value.differs (record.cell field.name) = false

/-- No identifier stands twice, and every row has the columns of the layout. -/
structure WellKept (layout : Layout) (table : Table Record) : Prop where
  distinct : (table.rows.map layout.schema.key).Nodup
  shaped : ∀ row ∈ table.rows, layout.Shapes row

variable {layout : Layout} {fields : List Field} {given old record row : Record} {name id : String}

/-! ## Looking up columns -/

/-- Field by field the record holds cells of which something is true. -/
def Describes (holds : Field → Cell → Prop) (fields : List Field) (record : Record) : Prop :=
  List.Forall₂ (fun field entry => entry.1 = field.name ∧ holds field entry.2) fields record

section Describes

variable {holds : Field → Cell → Prop}

theorem Describes.names (hdescribes : Describes holds fields record) :
    record.map Prod.fst = fields.map (·.name) := by
  induction hdescribes with
  | nil => rfl
  | cons hentry _ hrest => rw [List.map_cons, List.map_cons, hentry.1, hrest]

theorem Describes.lookup (hdescribes : Describes holds fields record)
    (hnames : (fields.map (·.name)).Nodup) {field : Field} (hfield : field ∈ fields) :
    ∃ value, record.lookup field.name = some value ∧ holds field value := by
  induction hdescribes with
  | nil => cases hfield
  | @cons first entry rest others hentry _ hrest =>
      obtain ⟨name, value⟩ := entry
      obtain ⟨rfl, hvalue⟩ := hentry
      rw [List.map_cons, List.nodup_cons] at hnames
      rcases List.mem_cons.mp hfield with rfl | hfield
      · exact ⟨value, by simp, hvalue⟩
      · have hother : field.name ≠ first.name := by
          intro hsame
          exact hnames.1 (hsame ▸ List.mem_map_of_mem hfield)
        rw [List.lookup_cons, beq_false_of_ne hother]
        exact hrest hnames.2 hfield

end Describes

theorem lookup_eq_none (hname : name ∉ record.map Prod.fst) : record.lookup name = none := by
  rw [List.lookup_eq_none_iff]
  intro entry hentry
  have hother : name ≠ entry.1 := by
    rintro rfl
    exact hname (List.mem_map_of_mem hentry)
  simpa using hother

theorem lookup_isSome (hname : name ∈ record.map Prod.fst) : (record.lookup name).isSome := by
  rw [Option.isSome_iff_ne_none, ne_eq, List.lookup_eq_none_iff]
  intro habsent
  obtain ⟨entry, hentry, rfl⟩ := List.mem_map.mp hname
  simpa using habsent entry hentry

theorem lookup_map (old : Record) (change : String → Cell → Cell) (name : String) :
    List.lookup name (old.map fun entry => (entry.1, change entry.1 entry.2)) =
      (old.lookup name).map (change name) := by
  induction old with
  | nil => rfl
  | cons first rest hrest =>
      obtain ⟨key, value⟩ := first
      rw [List.map_cons, List.lookup_cons, List.lookup_cons]
      by_cases hkey : name = key
      · subst hkey
        simp
      · rw [beq_false_of_ne hkey]
        exact hrest

theorem cell_eq {value : Cell} (hlookup : record.lookup name = some value) :
    record.cell name = value := by
  rw [Record.cell, hlookup]
  rfl

/-! ## What a column takes -/

end Layout

/-- What a column makes of a value in a new row. -/
def Field.Enters (field : Field) (given entered : Cell) : Prop :=
  ∃ taken, field.kind.prepared given = .ok taken ∧
    if (field.kind.stored taken).isNull then field.default = some entered
    else entered = field.kind.stored taken

theorem Cell.differs_self {field : Field} {value : Cell} (hsuits : field.Suits value) :
    value.differs value = false := by
  cases value with
  | null => rfl
  | int value => simp [Cell.differs, Cell.same, Cell.compare?, Cell.isNull]
  | real value => exact hsuits.elim
  | text value => simp [Cell.differs, Cell.same, Cell.compare?, Cell.isNull]

theorem Field.Suits.prepared {field : Field} {value : Cell} (hsuits : field.Suits value) :
    field.kind.prepared value = .ok value := by
  cases value with
  | null => cases field.kind <;> rfl
  | int value =>
    have hkind : field.kind = .integer := hsuits
    rw [hkind]
    rfl
  | real value => exact hsuits.elim
  | text value =>
    have hkind : field.kind = .text := hsuits
    rw [hkind]
    rfl

theorem Field.Suits.stored {field : Field} {value : Cell} (hsuits : field.Suits value) :
    field.kind.stored value = value := by
  cases value with
  | null => cases field.kind <;> rfl
  | int value =>
    have hkind : field.kind = .integer := hsuits
    rw [hkind]
    rfl
  | real value => exact hsuits.elim
  | text value =>
    have hkind : field.kind = .text := hsuits
    rw [hkind]
    rfl

theorem Field.Suits.enters {field : Field} {value entered : Cell} (hsuits : field.Suits value)
    (henters : field.Enters value entered) : entered = value := by
  obtain ⟨taken, hprepared, hentered⟩ := henters
  rw [hsuits.prepared] at hprepared
  obtain rfl := Except.ok.inj hprepared
  rw [hsuits.stored] at hentered
  cases value with
  | null =>
      have hnull : field.default = some .null := of_decide_eq_true hsuits
      have hdefault : field.default = some entered := hentered
      rw [hnull] at hdefault
      exact (Option.some.inj hdefault).symm
  | int value => exact hentered
  | real value => exact hsuits.elim
  | text value => exact hentered

namespace Layout

variable {layout : Layout} {fields : List Field} {given old record row : Record} {name id : String}

theorem describes_held (hheld : held fields given = .ok record) :
    Describes (fun field value => ∃ taken, field.kind.prepared (given.cell field.name) = .ok taken ∧
      value = field.kind.stored taken) fields record := by
  unfold held at hheld
  obtain ⟨prepared, hprepared, hrest⟩ := bind_eq_ok_iff.mp hheld
  split_ifs at hrest
  · cases hrest
  · obtain rfl := pure_eq_ok_iff.mp hrest
    have hpairs := mapM_eq_ok_iff.mp hprepared
    unfold Describes
    rw [List.forall₂_map_right_iff]
    refine hpairs.imp ?_
    intro field entry hentry
    obtain ⟨taken, htaken, hpair⟩ := bind_eq_ok_iff.mp hentry
    obtain rfl := pure_eq_ok_iff.mp hpair
    exact ⟨rfl, taken, htaken, rfl⟩

/-- A new record has all columns.  Each holds what was given for it, or its default. -/
theorem describes_inserted (hheld : held layout.fields given = .ok record)
    (hinserted : layout.inserted given = .ok row) :
    Describes (fun field value =>
      if (record.cell field.name).isNull then field.default = some value
      else value = record.cell field.name) layout.fields row := by
  unfold inserted at hinserted
  rw [hheld, ok_bind] at hinserted
  refine (mapM_eq_ok_iff.mp hinserted).imp ?_
  intro field entry hentry
  split at hentry
  next => cases hentry
  next hcell hdefault =>
    obtain rfl := pure_eq_ok_iff.mp hentry
    refine ⟨rfl, ?_⟩
    simpa [hcell, Cell.isNull] using hdefault
  next hfull hnull =>
    obtain rfl := pure_eq_ok_iff.mp hentry
    refine ⟨rfl, ?_⟩
    cases hcell : record.cell field.name with
    | null =>
        cases hdefault : field.default with
        | none => exact (hfull hcell hdefault).elim
        | some value => exact (hnull value hcell hdefault).elim
    | _ => simp [hcell, Cell.isNull]

theorem cell_inserted (hlayout : layout.Keyed) (hinserted : layout.inserted given = .ok row)
    {field : Field} (hfield : field ∈ layout.fields) :
    field.Enters (given.cell field.name) (row.cell field.name) := by
  obtain ⟨record, hheld, -⟩ := bind_eq_ok_iff.mp hinserted
  obtain ⟨_, hlookup, taken, htaken, rfl⟩ :=
    (describes_held hheld).lookup hlayout.names hfield
  obtain ⟨value, hvalue, hentered⟩ :=
    (describes_inserted hheld hinserted).lookup hlayout.names hfield
  rw [cell_eq hlookup] at hentered
  rw [cell_eq hvalue]
  exact ⟨taken, htaken, hentered⟩

theorem shapes_inserted (hinserted : layout.inserted given = .ok row) : layout.Shapes row := by
  obtain ⟨record, hheld, -⟩ := bind_eq_ok_iff.mp hinserted
  exact (describes_inserted hheld hinserted).names

theorem matches_inserted (hlayout : layout.Keyed) (hinserted : layout.inserted given = .ok row) :
    layout.Matches given row := by
  intro field hfield value hgiven hsuits
  have henters := cell_inserted hlayout hinserted hfield
  rw [cell_eq hgiven] at henters
  rw [hsuits.enters henters]
  exact Cell.differs_self hsuits

/-! ## Keys -/

theorem key?_text (id : String) : key? (.text id) = .ok (some id) := rfl

theorem stored_of_key? {value : Cell} (hkey : key? value = .ok (some id)) :
    Kind.text.stored value = .text id := by
  unfold key? at hkey
  split_ifs at hkey
  cases htext : value.text? with
  | none =>
      rw [Kind.stored, Kind.compared, htext] at hkey
      cases hkey
  | some text =>
      rw [Kind.stored, Kind.compared, htext] at hkey ⊢
      obtain rfl := Option.some.inj (Except.ok.inj hkey)
      rfl

theorem key_eq (hcell : row.cell layout.key = .text id) : layout.schema.key row = id := by
  change ((row.cell layout.key).text?).getD "" = id
  rw [hcell]
  rfl

theorem prepared_text (value : Cell) : Kind.text.prepared value = .ok value := by
  cases value with
  | null => rfl
  | int value => rfl
  | real value => rfl
  | text value => rfl

theorem key_inserted (hlayout : layout.Keyed) (hinserted : layout.inserted given = .ok row)
    (hkey : key? (given.cell layout.key) = .ok (some id)) : layout.schema.key row = id := by
  obtain ⟨taken, htaken, hentered⟩ := cell_inserted hlayout hinserted hlayout.key
  obtain rfl := Except.ok.inj ((prepared_text _).symm.trans htaken)
  rw [stored_of_key? hkey] at hentered
  exact key_eq hentered

/-! ## Changed records -/

/-- The old record with other cells where the new one has any. -/
def amend (old record : Record) : Record :=
  old.map fun entry => (entry.1, (record.lookup entry.1).getD entry.2)

theorem names_amend (old record : Record) :
    (amend old record).map Prod.fst = old.map Prod.fst := by
  unfold amend
  rw [List.map_map]
  rfl

theorem lookup_amend (old record : Record) (name : String) :
    (amend old record).lookup name = (old.lookup name).map (record.lookup name).getD :=
  lookup_map old (fun name value => (record.lookup name).getD value) name

theorem revised_eq_ok {changed? : Option Record}
    (hrevised : layout.revised given old = .ok changed?) :
    changed? = none ∧ layout.changed old given = [] ∨
      ∃ record, held (layout.changed old given) given = .ok record ∧
        changed? = some (amend old record) := by
  unfold revised at hrevised
  dsimp only at hrevised
  split_ifs at hrevised with hempty
  · exact .inl ⟨(pure_eq_ok_iff.mp hrevised).symm, List.isEmpty_iff.mp hempty⟩
  · obtain ⟨record, hheld, hrest⟩ := bind_eq_ok_iff.mp hrevised
    split_ifs at hrest
    · cases hrest
    · exact .inr ⟨record, hheld, (pure_eq_ok_iff.mp hrest).symm⟩

theorem mem_changed_iff {field : Field} :
    field ∈ layout.changed old given ↔
      field ∈ layout.fields ∧
        ∃ value, given.lookup field.name = some value ∧ value.differs (old.cell field.name) := by
  unfold changed
  rw [List.mem_filter, Option.any_eq_true]

theorem cell_of_changed (hlayout : layout.Keyed) (hshapes : layout.Shapes old)
    (hheld : held (layout.changed old given) given = .ok record) {field : Field}
    (hchanged : field ∈ layout.changed old given) :
    ∃ taken, field.kind.prepared (given.cell field.name) = .ok taken ∧
      (amend old record).cell field.name = field.kind.stored taken := by
  have hnames : ((layout.changed old given).map (·.name)).Nodup :=
    hlayout.names.sublist (List.filter_sublist.map _)
  obtain ⟨_, hlookup, taken, htaken, rfl⟩ := (describes_held hheld).lookup hnames hchanged
  have hold : (old.lookup field.name).isSome := by
    refine lookup_isSome ?_
    rw [hshapes]
    exact List.mem_map_of_mem (mem_changed_iff.mp hchanged).1
  obtain ⟨cell, hcell⟩ := Option.isSome_iff_exists.mp hold
  refine ⟨taken, htaken, cell_eq ?_⟩
  rw [lookup_amend, hcell, hlookup]
  rfl

theorem cell_of_unchanged (hheld : held (layout.changed old given) given = .ok record)
    (hunchanged : ∀ field ∈ layout.changed old given, field.name ≠ name) :
    (amend old record).cell name = old.cell name := by
  have hlookup : record.lookup name = none := by
    refine lookup_eq_none ?_
    rw [(describes_held hheld).names]
    intro hname
    obtain ⟨field, hfield, rfl⟩ := List.mem_map.mp hname
    exact hunchanged field hfield rfl
  unfold Record.cell
  rw [lookup_amend, hlookup]
  cases old.lookup name with
  | none => rfl
  | some value => rfl

/-- A column for which nothing is given stays as it is. -/
theorem cell_of_not_given (hheld : held (layout.changed old given) given = .ok record)
    (hgiven : given.lookup name = none) : (amend old record).cell name = old.cell name := by
  refine cell_of_unchanged hheld ?_
  rintro field hfield rfl
  obtain ⟨-, value, hvalue, -⟩ := mem_changed_iff.mp hfield
  rw [hgiven] at hvalue
  cases hvalue

theorem matches_of_unchanged (hchanged : layout.changed old given = []) :
    layout.Matches given old := by
  intro field hfield value hgiven _
  rw [← Bool.not_eq_true]
  intro hdiffers
  have hmem := mem_changed_iff.mpr ⟨hfield, value, hgiven, hdiffers⟩
  rw [hchanged] at hmem
  cases hmem

theorem matches_amend (hlayout : layout.Keyed) (hshapes : layout.Shapes old)
    (hheld : held (layout.changed old given) given = .ok record) :
    layout.Matches given (amend old record) := by
  intro field hfield value hgiven hsuits
  by_cases hdiffers : value.differs (old.cell field.name) = true
  · obtain ⟨taken, htaken, hcell⟩ := cell_of_changed hlayout hshapes hheld
      (mem_changed_iff.mpr ⟨hfield, value, hgiven, hdiffers⟩)
    rw [cell_eq hgiven, hsuits.prepared] at htaken
    obtain rfl := Except.ok.inj htaken
    rw [hcell, hsuits.stored]
    exact Cell.differs_self hsuits
  · have hcell : (amend old record).cell field.name = old.cell field.name := by
      refine cell_of_unchanged hheld ?_
      intro other hother hname
      obtain ⟨-, found, hfound, hdifferent⟩ := mem_changed_iff.mp hother
      rw [hname, hgiven] at hfound
      obtain rfl := Option.some.inj hfound
      rw [hname] at hdifferent
      exact hdiffers hdifferent
    rw [hcell]
    simpa using hdiffers

/-- The key stays, if the one that is given for it, if any, is the same. -/
theorem key_amend (hlayout : layout.Keyed) (hshapes : layout.Shapes old)
    (hheld : held (layout.changed old given) given = .ok record)
    (hgiven : ∀ value, given.lookup layout.key = some value →
      key? value = .ok (some (layout.schema.key old))) :
    layout.schema.key (amend old record) = layout.schema.key old := by
  by_cases hchanged : { name := layout.key, kind := .text } ∈ layout.changed old given
  · obtain ⟨taken, htaken, hcell⟩ := cell_of_changed hlayout hshapes hheld hchanged
    obtain ⟨-, value, hvalue, -⟩ := mem_changed_iff.mp hchanged
    obtain rfl := Except.ok.inj ((prepared_text _).symm.trans htaken)
    have hkey := hgiven value hvalue
    rw [← cell_eq hvalue] at hkey
    rw [stored_of_key? hkey] at hcell
    exact key_eq hcell
  · have hcell : (amend old record).cell layout.key = old.cell layout.key := by
      refine cell_of_unchanged hheld ?_
      intro field hfield hname
      have hsame : field = { name := layout.key, kind := .text } :=
        List.inj_on_of_nodup_map hlayout.names (mem_changed_iff.mp hfield).1 hlayout.key hname
      exact hchanged (hsame ▸ hfield)
    change ((Record.cell _ layout.key).text?).getD "" = _
    rw [hcell]
    rfl

/-! ## Records that are written -/

variable {table after : Table Record}

/-- A record is put in the place of an old one with its key. -/
theorem replace_revised (hlayout : layout.Keyed) (hkept : layout.WellKept table)
    (hold : old ∈ table.rows)
    (hgiven : ∀ value, given.lookup layout.key = some value →
      key? value = .ok (some (layout.schema.key old)))
    (hreplace : table.replace layout.schema old (layout.revised given old) = .ok (row, after)) :
    layout.schema.key row = layout.schema.key old ∧ layout.Shapes row ∧
      layout.Matches given row ∧
      (∀ name, given.lookup name = none → row.cell name = old.cell name) ∧
      after = { table with rows := Table.overwrite layout.schema row table.rows } := by
  have hshapes := hkept.shaped old hold
  rcases Table.replace_eq_ok hreplace with ⟨hrevised, rfl, rfl⟩ | ⟨hrevised, rfl⟩
  · rcases revised_eq_ok hrevised with ⟨-, hchanged⟩ | ⟨record, -, hnone⟩
    · refine ⟨rfl, hshapes, matches_of_unchanged hchanged, fun _ _ => rfl, ?_⟩
      rw [Table.overwrite_self hkept.distinct hold]
    · cases hnone
  · rcases revised_eq_ok hrevised with ⟨hnone, -⟩ | ⟨record, hheld, hrow⟩
    · cases hnone
    · obtain rfl := Option.some.inj hrow
      have hkey := key_amend hlayout hshapes hheld hgiven
      refine ⟨hkey, (names_amend old record).trans hshapes,
        matches_amend hlayout hshapes hheld, fun _ => cell_of_not_given hheld, ?_⟩
      unfold Table.overwrite
      rw [hkey]

theorem lookup_withDefaults {value : Cell} (hgiven : given.lookup name = some value) :
    (layout.withDefaults given).lookup name = some value := by
  unfold withDefaults
  rw [List.lookup_append, hgiven]
  rfl

theorem Matches.of_withDefaults (hmatches : layout.Matches (layout.withDefaults given) row) :
    layout.Matches given row := by
  intro field hfield value hgiven hsuits
  exact hmatches field hfield value (lookup_withDefaults hgiven) hsuits

theorem create_eq_ok (hlayout : layout.Keyed) (hkept : layout.WellKept table)
    (hcreate : layout.create given table = .ok (row, after)) :
    ∃ id, key? (given.cell layout.key) = .ok (some id) ∧ layout.schema.key row = id ∧
      layout.Shapes row ∧ layout.Matches given row ∧
      ((∀ old ∈ table.rows, layout.schema.key old ≠ id) ∧
          after = { table with rows := table.rows ++ [row] } ∨
        (∃ old ∈ table.rows, layout.schema.key old = id) ∧
          after = { table with rows := Table.overwrite layout.schema row table.rows }) := by
  unfold create at hcreate
  dsimp only at hcreate
  split_ifs at hcreate with hnull
  · obtain ⟨_, _, hcreate⟩ := bind_eq_ok_iff.mp hcreate
    cases hcreate
  obtain ⟨⟨⟩, -, hcreate⟩ := bind_eq_ok_iff.mp hcreate
  obtain ⟨id?, hid, hcreate⟩ := bind_eq_ok_iff.mp hcreate
  cases id? with
  | none => cases hcreate
  | some id =>
      refine ⟨id, hid, ?_⟩
      rcases Table.put_eq_ok hcreate with ⟨hnew, hinserted, rfl⟩ | ⟨old, hold, hkey, hreplace⟩
      · exact ⟨key_inserted hlayout hinserted hid, shapes_inserted hinserted,
          matches_inserted hlayout hinserted, .inl ⟨hnew, rfl⟩⟩
      · have hgiven : ∀ value, (layout.withDefaults given).lookup layout.key = some value →
            key? value = .ok (some (layout.schema.key old)) := by
          intro value hvalue
          rw [hkey]
          cases hlookup : given.lookup layout.key with
          | none =>
              have hcell : given.cell layout.key = .null := by rw [Record.cell, hlookup]; rfl
              rw [hcell] at hnull
              exact absurd rfl hnull
          | some found =>
              rw [lookup_withDefaults hlookup] at hvalue
              obtain rfl := Option.some.inj hvalue
              rwa [cell_eq hlookup] at hid
        obtain ⟨hrow, hshape, hmatches, -, rfl⟩ :=
          replace_revised hlayout hkept hold hgiven hreplace
        exact ⟨hrow.trans hkey, hshape, hmatches.of_withDefaults, .inr ⟨⟨old, hold, hkey⟩, rfl⟩⟩

theorem find?_eq_ok_iff {found : Option Record} :
    layout.find? (.text id) table = .ok found ↔
      .select ∉ table.failing ∧
        table.rows.find? (fun row => layout.schema.key row = id) = found := by
  unfold find?
  rw [key?_text]
  simp only [bind_eq_ok_iff, Table.attempt_eq_ok_iff, ok_bind, Table.find?_eq_ok_iff]
  simp

theorem assign_eq_ok {row? : Option Record} (hlayout : layout.Keyed)
    (hkept : layout.WellKept table) (hgiven : given.lookup layout.key = none)
    (hassign : layout.assign (.text id) given table = .ok (row?, after)) :
    (∀ old ∈ table.rows, layout.schema.key old ≠ id) ∧ row? = none ∧ after = table ∨
      ∃ old ∈ table.rows, ∃ row, layout.schema.key old = id ∧ row? = some row ∧
        layout.schema.key row = id ∧ layout.Shapes row ∧ layout.Matches given row ∧
        (∀ name, given.lookup name = none → row.cell name = old.cell name) ∧
        after = { table with rows := Table.overwrite layout.schema row table.rows } := by
  unfold assign at hassign
  obtain ⟨old?, hfind, hassign⟩ := bind_eq_ok_iff.mp hassign
  have hlookup := (find?_eq_ok_iff.mp (mapError_eq_ok_iff.mp hfind)).2
  cases old? with
  | none =>
      obtain ⟨rfl, rfl⟩ := Prod.mk.inj (pure_eq_ok_iff.mp hassign)
      refine .inl ⟨?_, rfl, rfl⟩
      intro old hold
      simpa using List.find?_eq_none.mp hlookup old hold
  | some old =>
      dsimp only at hassign
      split at hassign
      · cases hassign
      · obtain ⟨⟨row, changed⟩, hreplace, hassign⟩ := bind_eq_ok_iff.mp hassign
        obtain ⟨rfl, rfl⟩ := Prod.mk.inj (pure_eq_ok_iff.mp hassign)
        have hold := List.mem_of_find?_eq_some hlookup
        have hkey : layout.schema.key old = id := by simpa using List.find?_some hlookup
        have hkeyGiven : ∀ value, given.lookup layout.key = some value →
            key? value = .ok (some (layout.schema.key old)) := by
          intro value hvalue
          rw [hgiven] at hvalue
          cases hvalue
        obtain ⟨hrow, hshape, hmatches, hkept, rfl⟩ :=
          replace_revised hlayout hkept hold hkeyGiven (mapError_eq_ok_iff.mp hreplace)
        exact .inr ⟨old, hold, row, hkey, rfl, hrow.trans hkey, hshape, hmatches, hkept, rfl⟩

theorem delete_eq_ok {found : Bool}
    (hdelete : layout.delete (.text id) table = .ok (found, after)) :
    (found = true ↔ ∃ row ∈ table.rows, layout.schema.key row = id) ∧
      after = { table with
        rows := table.rows.filter fun row => layout.schema.key row ≠ id } := by
  unfold delete at hdelete
  obtain ⟨⟨⟩, -, hdelete⟩ := bind_eq_ok_iff.mp hdelete
  rw [key?_text, ok_bind] at hdelete
  exact Table.delete_eq_ok hdelete

end Layout
end Roster
