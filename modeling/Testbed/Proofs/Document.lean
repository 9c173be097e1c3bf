import Mathlib.Data.List.Forall2
import Testbed.Document.Record
import Testbed.Proofs.Store

/-!
Reading back what was written.

Whoever keeps a document may put the fields of its tables into an order of their own.  An `Arrangement` does
that and nothing else, and `Arrangement.Reads` says that the document of a value is read as that value however
it was arranged.  A record is read back if each of its fields is, as long as no two fields go by one name; of
a variant the field that names the case is taken away first, so it must not be the name of another field.
-/

namespace Testbed

/-- What may happen to a document on its way: the fields of its tables come in another order. -/
structure Arrangement where
  run : Document → Document
  leaf : ∀ {d : Document}, d.depth = 0 → run d = d
  list : ∀ items, run (.list items) = .list (items.map run)
  table : ∀ {fields : List (String × Document)}, (fields.map Prod.fst).Nodup →
    ∃ arranged, run (.table fields) = .table arranged ∧ arranged.Perm (fields.map (Prod.map id run))

namespace Document

/-- Sorting the items of a list sorts each of them. -/
theorem sortedItems_eq_map (items : List Document) : sortedItems items = items.map sorted := by
  induction items with
  | nil => rfl
  | cons item rest ih => rw [sortedItems, ih, List.map_cons]

/-- A new field is put beside the others, wherever its place is. -/
theorem putField_perm {name : String} {value : Document} {fields : List (String × Document)}
    (fresh : name ∉ fields.map Prod.fst) : (putField name value fields).Perm ((name, value) :: fields) := by
  induction fields with
  | nil => exact .refl _
  | cons field rest ih =>
      obtain ⟨n, old⟩ := field
      simp only [List.map_cons, List.mem_cons, not_or] at fresh
      rw [putField]
      split
      · exact .refl _
      · rw [if_neg fresh.1]
        exact ((ih fresh.2).cons _).trans (.swap _ _ _)

/-- Fields of different names are all kept. -/
theorem sortedFields_perm {fields done : List (String × Document)}
    (distinct : (fields.map Prod.fst ++ done.map Prod.fst).Nodup) :
    (sortedFields done fields).Perm (fields.map (Prod.map id sorted) ++ done) := by
  induction fields generalizing done with
  | nil => exact .refl _
  | cons field rest ih =>
      obtain ⟨name, value⟩ := field
      obtain ⟨fresh, distinctRest⟩ := List.nodup_cons.1 distinct
      have put : (putField name value.sorted done).Perm ((name, value.sorted) :: done) :=
        putField_perm fun mem => fresh (List.mem_append_right _ mem)
      have names : (rest.map Prod.fst ++ (putField name value.sorted done).map Prod.fst).Perm
          (name :: (rest.map Prod.fst ++ done.map Prod.fst)) :=
        ((put.map Prod.fst).append_left _).trans List.perm_middle
      rw [sortedFields]
      exact ((ih (names.nodup_iff.2 distinct)).trans (put.append_left _)).trans List.perm_middle

end Document

namespace Arrangement

/-- The document as it was written. -/
def asWritten : Arrangement where
  run := id
  leaf _ := rfl
  list items := by simp
  table {fields} _ := ⟨fields, rfl, by simp⟩

/-- The document with its fields in the order of their names. -/
def byName : Arrangement where
  run := Document.sorted
  leaf {d} flat := by cases d <;> simp_all [Document.sorted, Document.depth]
  list items := by rw [Document.sorted, Document.sortedItems_eq_map]
  table {fields} distinct := by
    have nothing_done : (fields.map Prod.fst ++ List.map Prod.fst ([] : List (String × Document))).Nodup := by
      simpa using distinct
    have perm := Document.sortedFields_perm nothing_done
    rw [List.append_nil] at perm
    exact ⟨_, Document.sorted.eq_2 fields, perm⟩

variable {α β : Type}

/-- A document is read as a value, however it is arranged. -/
def Reads (f : Arrangement) (read : Document → Option α) (d : Document) (v : α) : Prop :=
  read (f.run d) = some v

/-- Some fields have different names, and these are the same fields in another order, with their values
arranged. -/
structure Shows (f : Arrangement) (fields arranged : List (String × Document)) : Prop where
  distinct : (fields.map Prod.fst).Nodup
  perm : arranged.Perm (fields.map (Prod.map id f.run))

/-- A table of some fields is read as a value, however the fields are arranged. -/
def ReadsFields (f : Arrangement) (read : Document → Option α) (fields : List (String × Document))
    (v : α) : Prop :=
  ∀ ⦃arranged⦄, f.Shows fields arranged → read (.table arranged) = some v

/-- Part of a record is read as a value, and all fields are left for what comes after. -/
def Gets (f : Arrangement) (r : Record α) (fields : List (String × Document)) (v : α) : Prop :=
  ∀ ⦃arranged⦄, f.Shows fields arranged → r.run (.named arranged) = some (v, .named arranged)

variable {f : Arrangement} {fields : List (String × Document)}

/-! ### Tables -/

/-- What is read from the fields of a table is read from the table. -/
theorem ReadsFields.reads {read : Document → Option α} {v : α} (h : f.ReadsFields read fields v)
    (distinct : (fields.map Prod.fst).Nodup) : f.Reads read (.table fields) v := by
  obtain ⟨arranged, eq, perm⟩ := f.table distinct
  rw [Reads, eq]
  exact h ⟨distinct, perm⟩

/-- A function of what is read from some fields is read from the same fields. -/
theorem ReadsFields.map {read : Document → Option α} {v : α} (h : f.ReadsFields read fields v) (g : α → β) :
    f.ReadsFields (fun d => (read d).map g) fields (g v) := by
  intro arranged shows
  simp only [h shows, Option.map_some]

/-- What a record gets from some fields is read from a table of them. -/
theorem Gets.readsFields {r : Record α} {v : α} (h : f.Gets r fields v) :
    f.ReadsFields (Document.record? r) fields v := by
  intro arranged shows
  rw [Document.record?, h shows, Option.map_some]

/-- A record is read back if its fields are. -/
theorem Gets.reads {r : Record α} {v : α} (h : f.Gets r fields v)
    (distinct : (fields.map Prod.fst).Nodup) : f.Reads (Document.record? r) (.table fields) v :=
  h.readsFields.reads distinct

/-- Of fields with different names, one has a given name. -/
theorem filter_name {name : String} {d : Document} (distinct : (fields.map Prod.fst).Nodup)
    (mem : (name, d) ∈ fields) : fields.filter (·.1 = name) = [(name, d)] := by
  induction fields with
  | nil => cases mem
  | cons field rest ih =>
      obtain ⟨fresh, distinctRest⟩ := List.nodup_cons.1 distinct
      rcases List.mem_cons.1 mem with rfl | later
      · have others : rest.filter (·.1 = name) = [] := by
          refine List.filter_eq_nil_iff.2 fun other there same => ?_
          exact fresh (List.mem_map.2 ⟨other, there, by simpa using same⟩)
        simp [others]
      · have other : field.1 ≠ name := by
          rintro rfl
          exact fresh (List.mem_map.2 ⟨_, later, rfl⟩)
        simp [other, ih distinctRest later]

/-- A field is found under its name. -/
theorem Shows.filter_name {arranged : List (String × Document)} (shows : f.Shows fields arranged)
    {name : String} {d : Document} (mem : (name, d) ∈ fields) :
    arranged.filter (·.1 = name) = [(name, f.run d)] := by
  have found := shows.perm.filter (·.1 = name)
  rw [List.filter_map] at found
  have same : ((fun field : String × Document => decide (field.1 = name)) ∘ Prod.map id f.run) =
      fun field => decide (field.1 = name) := rfl
  rw [same, Arrangement.filter_name shows.distinct mem] at found
  exact List.perm_singleton.1 found

/-- Without one of the fields the others are left. -/
theorem Shows.filter_others {arranged : List (String × Document)} {tag : String} {d : Document}
    (shows : f.Shows ((tag, d) :: fields) arranged) :
    f.Shows fields (arranged.filter (·.1 ≠ tag)) := by
  obtain ⟨fresh, distinct⟩ := List.nodup_cons.1 shows.distinct
  refine ⟨distinct, (shows.perm.filter (·.1 ≠ tag)).trans (.of_eq ?_)⟩
  have kept : ∀ field ∈ fields.map (Prod.map id f.run), field.1 ≠ tag := by
    rintro field mem rfl
    obtain ⟨other, there, rfl⟩ := List.mem_map.1 mem
    exact fresh (List.mem_map.2 ⟨other, there, rfl⟩)
  simpa using kept

/-- A variant is read back if its case is and no other field goes by the name of the tag. -/
theorem ReadsFields.tagged {tag c : String} {name : Document → Option String}
    {case : String → Document → Option α} {v : α} (h : f.ReadsFields (case c) fields v)
    (named : name (.text c) = some c)
    (distinct : (((tag, Document.text c) :: fields).map Prod.fst).Nodup) :
    f.Reads (Document.taggedBy? tag name case) (.table ((tag, .text c) :: fields)) v := by
  refine ReadsFields.reads ?_ distinct
  intro arranged shows
  have tagged := shows.filter_name List.mem_cons_self
  rw [f.leaf rfl] at tagged
  rw [Document.taggedBy?, tagged]
  simp only [named, Option.bind_eq_bind, Option.bind_some]
  -- The case sees the other fields, which are still those that were written.
  exact h shows.filter_others

/-! ### Records -/

/-- A record that asks for no field gets its value from any fields. -/
theorem Gets.pure {v : α} : f.Gets (Pure.pure v) fields v := fun _ _ => rfl

/-- What a record gets goes into the record that comes after it. -/
theorem Gets.bind {r : Record α} {k : α → Record β} {v : α} {w : β} (first : f.Gets r fields v)
    (later : f.Gets (k v) fields w) : f.Gets (r >>= k) fields w := by
  intro arranged shows
  rw [StateT.run_bind, first shows]
  exact later shows

/-- A field that is there is read, whether or not it might have been left out. -/
theorem Gets.one {absent : Option α} {name : String} {read : Document → Option α} {d : Document} {v : α}
    (mem : (name, d) ∈ fields) (h : f.Reads read d v) :
    f.Gets (Record.fieldOr absent name read) fields v := by
  intro arranged shows
  rw [Reads] at h
  simp only [StateT.run, Record.fieldOr, shows.filter_name mem, h, Option.map_some]

/-- A field that is there is read, and then whatever the rest of the record reads. -/
theorem Gets.field {absent : Option α} {name : String} {read : Document → Option α} {k : α → Record β}
    {d : Document} {v : α} {w : β} (mem : (name, d) ∈ fields) (h : f.Reads read d v)
    (later : f.Gets (k v) fields w) : f.Gets (Record.fieldOr absent name read >>= k) fields w :=
  (Gets.one mem h).bind later

/-- A field that may be null is read, and then whatever the rest of the record reads. -/
theorem Gets.nullableField {name : String} {read : Document → Option α} {k : Option α → Record β}
    {d : Document} {v : Option α} {w : β} (mem : (name, d) ∈ fields)
    (h : f.Reads (Document.nullable? read) d v) (later : f.Gets (k v) fields w) :
    f.Gets (Record.nullableField name read >>= k) fields w := by
  refine Gets.bind ?_ later
  intro arranged shows
  exact Gets.one mem h shows

/-! ### Values -/

/-- A text is read back, however its document is arranged. -/
theorem reads_text (s : String) : f.Reads Document.text? (.text s) s := by
  rw [Reads, f.leaf rfl, Document.text?]

theorem reads_bool (b : Bool) : f.Reads Document.bool? (.bool b) b := by
  rw [Reads, f.leaf rfl, Document.bool?]

/-- A number below the bound is read back. -/
theorem natBelow?_nat {bound n : Nat} (h : n < bound) : (Document.nat n).natBelow? bound = some n := by
  simp [Document.nat, Document.natBelow?, h]

theorem reads_uint16 (n : UInt16) : f.Reads Document.uint16? (.nat n.toNat) n := by
  rw [Reads, f.leaf rfl, Document.uint16?, natBelow?_nat n.toNat_lt]
  simp

theorem reads_uint32 (n : UInt32) : f.Reads Document.uint32? (.nat n.toNat) n := by
  rw [Reads, f.leaf rfl, Document.uint32?, natBelow?_nat n.toNat_lt]
  simp

theorem reads_uint64 (n : UInt64) : f.Reads Document.uint64? (.nat n.toNat) n := by
  rw [Reads, f.leaf rfl, Document.uint64?, natBelow?_nat n.toNat_lt]
  simp

theorem reads_int64 (n : Int64) : f.Reads Document.int64? (.int n.toInt) n := by
  have fits : Text.fitsInt64 n.toInt = true := by
    rw [Text.fitsInt64, Bool.and_eq_true, decide_eq_true_eq, decide_eq_true_eq]
    exact ⟨n.minValue_le_toInt, n.toInt_le⟩
  rw [Reads, f.leaf rfl, Document.int64?, Document.int?]
  simp [fits]

/-- A case without fields is read by its name. -/
theorem reads_name {ofName : String → Option α} {s : String} {v : α} (h : ofName s = some v) :
    f.Reads (Document.name? ofName) (.text s) v := by
  rw [Reads, f.leaf rfl]
  exact h

/-- A name that stands for a value is read back as that value. -/
theorem reads_innerName {ofName : String → Option α} {s : String} {v : α} (h : ofName s = some v) :
    f.Reads (Document.innerName? ofName) (.text s) v := by
  rw [Reads, f.leaf rfl]
  exact h

/-- A value that may be absent is read back, as long as its own reader takes null for no value. -/
theorem Reads.optional {read : Document → Option α} {write : α → Document}
    (h : ∀ v, f.Reads read (write v) v) (refuses : read .null = none) (o : Option α) :
    f.Reads (Document.nullable? read) (.optional write o) o := by
  cases o with
  | none => rw [Reads, Document.optional, f.leaf rfl, Document.nullable?]
  | some v =>
      have present := h v
      rw [Reads] at present
      rw [Reads, Document.optional, Document.nullable?.eq_2, present, Option.map_some]
      intro null
      rw [null, refuses] at present
      cases present

theorem reads_optional_uint16 (o : Option UInt16) :
    f.Reads (Document.nullable? Document.uint16?) (.optional (fun n => .nat n.toNat) o) o :=
  .optional reads_uint16 rfl o

theorem reads_optional_uint32 (o : Option UInt32) :
    f.Reads (Document.nullable? Document.uint32?) (.optional (fun n => .nat n.toNat) o) o :=
  .optional reads_uint32 rfl o

/-- If each item is read as a value, the list is read as the list of the values. -/
theorem mapM_eq_some {read : α → Option β} {xs : List α} {ys : List β}
    (h : List.Forall₂ (fun x y => read x = some y) xs ys) : xs.mapM read = some ys := by
  induction h with
  | nil => rfl
  | cons first _ ih => rw [List.mapM_cons, first, ih]; rfl

/-- A list is read back if each of its items is. -/
theorem Reads.list {read : Document → Option α} {write : α → Document}
    (h : ∀ v, f.Reads read (write v) v) (vs : List α) :
    f.Reads (Document.list? read) (.list (vs.map write)) vs := by
  rw [Reads, f.list, Document.list?]
  refine mapM_eq_some ?_
  rw [List.forall₂_map_left_iff, List.forall₂_map_left_iff, List.forall₂_same]
  exact fun v _ => h v

theorem reads_texts (vs : List String) : f.Reads (Document.list? Document.text?) (.texts vs) vs :=
  .list reads_text vs

end Arrangement

/-! ### Tables of texts -/

namespace Table

variable {α : Type}

/-- A table is made of its entries, in whatever order they come. -/
theorem ofList_of_perm {t : Table α} {entries : List (String × α)} (perm : entries.Perm t.entries) :
    ofList entries = t := by
  have distinct : (entries.map Prod.fst).Nodup := (perm.map Prod.fst).nodup_iff.2 t.nodup_keys
  ext key : 1
  cases found : t.get? key with
  | none =>
      refine get?_insertAll_of_notMem _ fun mem => ?_
      have listed := mem_keys.1 ((perm.map Prod.fst).mem_iff.1 mem)
      rw [contains, found] at listed
      cases listed
  | some value => exact get?_insertAll_of_mem _ distinct (perm.mem_iff.2 (mem_entries.2 found))

end Table

namespace Arrangement

variable {f : Arrangement}

/-- A table of texts is read back. -/
theorem reads_entries (t : Table String) :
    f.Reads (Document.entries? Document.text?) t.toDocument t := by
  have distinct : ((t.entries.map fun e => (e.1, Document.text e.2)).map Prod.fst).Nodup := by
    rw [List.map_map]
    exact t.nodup_keys
  obtain ⟨arranged, eq, perm⟩ := f.table distinct
  have texts : List.Forall₂ (fun field entry => field = (entry.1, Document.text entry.2))
      ((t.entries.map fun e => (e.1, Document.text e.2)).map (Prod.map id f.run)) t.entries := by
    rw [List.forall₂_map_left_iff, List.forall₂_map_left_iff, List.forall₂_same]
    exact fun entry _ => Prod.ext rfl (f.leaf rfl)
  -- What is read are the entries in the order of the fields, and that makes the same table.
  obtain ⟨entries, texts, same⟩ := List.perm_comp_forall₂ perm texts
  have read : arranged.mapM (fun field => (Document.text? field.2).map fun value => (field.1, value)) =
      some entries := by
    refine mapM_eq_some (texts.imp ?_)
    rintro _ entry rfl
    rfl
  rw [Reads, Table.toDocument, eq, Document.entries?, read, Option.map_some, Table.ofList_of_perm same]

end Arrangement

end Testbed
