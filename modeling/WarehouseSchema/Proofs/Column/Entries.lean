import Mathlib.Data.List.Nodup
import WarehouseSchema.Proofs.Column.Collection

/-!
Collections of entries, among which there may be values that are no columns. Main statement: looking at
all entries in one pass, with the names seen so far, comes to the same as putting them one by one at the
end of a collection that is made anew each time. Both stop at the first entry that is no column or repeats
a name, and otherwise give the columns in their order, each found under its own name and no other.
-/

namespace WarehouseSchema

/-- Why an entry is refused behind names that were seen. -/
inductive ColumnEntry.RefusedAs (seen : List String) : ColumnEntry → Fault → Prop where
  | notColumn (v : Value) : RefusedAs seen (.other v) (.definition (.notColumn v))
  | repeated {c : Column} : c.name ∈ seen →
      RefusedAs seen (.column c) (.definition (.repeatedColumn c.name))

/-- Only which names were seen counts, not in which order. -/
theorem ColumnEntry.RefusedAs.mono {seen seen' : List String} {entry : ColumnEntry} {fault : Fault}
    (h : entry.RefusedAs seen fault) (hsub : ∀ name ∈ seen, name ∈ seen') :
    entry.RefusedAs seen' fault := by
  cases h with
  | notColumn v => exact .notColumn v
  | repeated hmem => exact .repeated (hsub _ hmem)

namespace FreshColumns

variable {seen : List String}

def names (columns : FreshColumns seen) : List String := columns.toList.map Column.name

theorem toList_inj {columns columns' : FreshColumns seen} :
    columns.toList = columns'.toList ↔ columns = columns' := by
  cases columns
  cases columns'
  simp

/-- The columns behind the first of fresh ones are fresh when its name was seen too. -/
theorem exists_tail {columns : FreshColumns seen} {c : Column} {rest : List Column}
    (h : columns.toList = c :: rest) :
    c.name ∉ seen ∧ ∃ tail : FreshColumns (c.name :: seen), tail.toList = rest := by
  have hnodup := columns.nodup_names
  have hfresh := columns.not_mem_seen
  rw [h] at hnodup hfresh
  rw [List.map_cons, List.nodup_cons] at hnodup
  refine ⟨hfresh c List.mem_cons_self, ⟨rest, hnodup.2, ?_⟩, rfl⟩
  intro d hd hmem
  rcases List.mem_cons.mp hmem with hname | hmem
  · exact hnodup.1 (hname ▸ List.mem_map_of_mem hd)
  · exact hfresh d (List.mem_cons_of_mem c hd) hmem

theorem ofEntries_cons (c : Column) (entries : List ColumnEntry) (h : c.name ∉ seen) :
    ofEntries seen (.column c :: entries) = (ofEntries (c.name :: seen) entries).map (cons c h) := by
  rw [ofEntries, dif_neg h]

/-- The pass takes over exactly the columns that are fresh. -/
theorem ofEntries_columns {entries : List ColumnEntry} {columns : FreshColumns seen}
    (h : entries = columns.toList.map .column) : ofEntries seen entries = .ok columns := by
  induction entries generalizing seen with
  | nil =>
    have hnil : columns.toList = [] := List.map_eq_nil_iff.mp h.symm
    rw [ofEntries, Except.ok.injEq, ← toList_inj, hnil]
    rfl
  | cons entry entries ih =>
    obtain ⟨c, rest, hlist, rfl, rfl⟩ := List.map_eq_cons_iff.mp h.symm
    obtain ⟨hnew, tail, rfl⟩ := exists_tail hlist
    have htail : ofEntries (c.name :: seen) (tail.toList.map .column) = .ok tail := ih rfl
    rw [ofEntries_cons c _ hnew, htail]
    exact congrArg Except.ok (toList_inj.mp hlist.symm)

/-- The pass stops at an entry that is refused behind fresh columns. -/
theorem ofEntries_refused {entry : ColumnEntry} {after entries : List ColumnEntry} {fault : Fault}
    {front : FreshColumns seen} (h : entry.RefusedAs (front.names ++ seen) fault)
    (hentries : entries = front.toList.map .column ++ entry :: after) :
    ofEntries seen entries = .error fault := by
  induction entries generalizing seen with
  | nil => simp at hentries
  | cons first entries ih =>
    cases hlist : front.toList with
    | nil =>
      simp only [names, hlist, List.map_nil, List.nil_append] at h hentries
      obtain ⟨rfl, rfl⟩ := List.cons.inj hentries
      cases h with
      | notColumn v => rfl
      | repeated hmem =>
        rw [ofEntries, dif_pos hmem]
        rfl
    | cons c rest =>
      -- what is fresh behind the first column is fresh with its name among the names seen
      obtain ⟨hnew, tail, rfl⟩ := exists_tail hlist
      rw [hlist, List.map_cons, List.cons_append] at hentries
      obtain ⟨rfl, hrest⟩ := List.cons.inj hentries
      have hlater : entry.RefusedAs (tail.names ++ c.name :: seen) fault := by
        refine h.mono fun name hmem => ?_
        simp only [names, hlist, List.map_cons, List.mem_append, List.mem_cons] at hmem ⊢
        tauto
      rw [ofEntries_cons c _ hnew, ih hlater hrest]
      rfl

/-- Entries are all fresh columns, or there is a first one that is refused. -/
theorem exists_columns_or_refused (seen : List String) (entries : List ColumnEntry) :
    (∃ columns : FreshColumns seen, entries = columns.toList.map .column) ∨
      ∃ (front : FreshColumns seen) (entry : ColumnEntry) (after : List ColumnEntry) (fault : Fault),
        entries = front.toList.map .column ++ entry :: after ∧
        entry.RefusedAs (front.names ++ seen) fault := by
  induction entries generalizing seen with
  | nil => exact Or.inl ⟨empty, rfl⟩
  | cons first entries ih =>
    cases first with
    | other v => exact Or.inr ⟨empty, .other v, entries, _, rfl, .notColumn v⟩
    | column c =>
      by_cases hmem : c.name ∈ seen
      · exact Or.inr ⟨empty, .column c, entries, _, rfl, .repeated hmem⟩
      · rcases ih (c.name :: seen) with ⟨columns, rfl⟩ | ⟨front, entry, after, fault, rfl, href⟩
        · exact Or.inl ⟨cons c hmem columns, rfl⟩
        · refine Or.inr ⟨cons c hmem front, entry, after, fault, rfl, href.mono ?_⟩
          intro name hname
          simp only [names, cons, List.map_cons, List.mem_append, List.mem_cons] at hname ⊢
          tauto

end FreshColumns

namespace Columns

/-- A collection is made of entries exactly when they are its columns. -/
theorem ofEntries_eq_ok_iff {entries : List ColumnEntry} {cs : Columns} :
    ofEntries entries = .ok cs ↔ entries = cs.toList.map .column := by
  constructor
  · intro h
    rcases FreshColumns.exists_columns_or_refused [] entries with
      ⟨columns, hentries⟩ | ⟨front, entry, after, fault, hentries, href⟩
    · rw [ofEntries, FreshColumns.ofEntries_columns hentries] at h
      rw [hentries, ← Except.ok.inj h]
    · rw [ofEntries, FreshColumns.ofEntries_refused href hentries] at h
      exact absurd h (by simp [Except.map])
  · intro h
    have hpass : FreshColumns.ofEntries [] entries = .ok ⟨cs.toList, cs.nodup_names, by simp⟩ :=
      FreshColumns.ofEntries_columns h
    rw [ofEntries, hpass]
    rfl

/-- Entries are refused at the first one that is no column or repeats a name. -/
theorem ofEntries_eq_error_iff {entries : List ColumnEntry} {fault : Fault} :
    ofEntries entries = .error fault ↔
      ∃ (front : Columns) (entry : ColumnEntry) (after : List ColumnEntry),
        entries = front.toList.map .column ++ entry :: after ∧ entry.RefusedAs front.names fault := by
  constructor
  · intro h
    rcases FreshColumns.exists_columns_or_refused [] entries with
      ⟨columns, hentries⟩ | ⟨front, entry, after, fault', hentries, href⟩
    · rw [ofEntries, FreshColumns.ofEntries_columns hentries] at h
      exact absurd h (by simp [Except.map])
    · have hfault : fault' = fault := by
        rw [ofEntries, FreshColumns.ofEntries_refused href hentries] at h
        exact Except.error.inj h
      subst hfault
      rw [List.append_nil] at href
      exact ⟨⟨front.toList, front.nodup_names⟩, entry, after, hentries, href⟩
  · rintro ⟨front, entry, after, hentries, href⟩
    let fresh : FreshColumns [] := ⟨front.toList, front.nodup_names, by simp⟩
    have hfresh : entry.RefusedAs (fresh.names ++ []) fault :=
      href.mono fun name hname => List.mem_append_left [] hname
    have hrefused : FreshColumns.ofEntries [] entries = .error fault :=
      FreshColumns.ofEntries_refused hfresh hentries
    rw [ofEntries, hrefused]
    rfl

theorem pushEntry_eq_ok_iff {cs cs' : Columns} {entry : ColumnEntry} :
    cs.pushEntry entry = .ok cs' ↔ ∃ c, entry = .column c ∧ cs'.toList = cs.toList ++ [c] := by
  rw [pushEntry, ofEntries_eq_ok_iff]
  constructor
  · intro h
    obtain ⟨front, back, hlist, hfront, hback⟩ := List.map_eq_append_iff.mp h.symm
    obtain ⟨c, rfl, rfl⟩ := List.map_eq_singleton_iff.mp hback
    have hinj : Function.Injective ColumnEntry.column := fun c d hcd => by simpa using hcd
    exact ⟨c, rfl, by rw [hlist, List.map_injective_iff.mpr hinj hfront]⟩
  · rintro ⟨c, rfl, hlist⟩
    rw [hlist, List.map_append]
    rfl

theorem pushEntry_eq_error_iff {cs : Columns} {entry : ColumnEntry} {fault : Fault} :
    cs.pushEntry entry = .error fault ↔ entry.RefusedAs cs.names fault := by
  constructor
  · intro h
    by_cases hfits : ∃ c, entry = .column c ∧ c.name ∉ cs.names
    · obtain ⟨c, rfl, hnew⟩ := hfits
      have hpush : cs.push c = .ok ⟨cs.toList ++ [c], _⟩ := dif_neg hnew
      rw [pushEntry_eq_ok_iff.mpr ⟨c, rfl, push_eq_ok_iff.mp hpush⟩] at h
      exact absurd h (by simp)
    · have hrefused : ∃ fault, entry.RefusedAs cs.names fault := by
        cases entry with
        | other v => exact ⟨_, .notColumn v⟩
        | column c => exact ⟨_, .repeated (by_contra fun hnew => hfits ⟨c, rfl, hnew⟩)⟩
      obtain ⟨fault', href⟩ := hrefused
      have herror : cs.pushEntry entry = .error fault' :=
        ofEntries_eq_error_iff.mpr ⟨cs, entry, [], rfl, href⟩
      rw [h] at herror
      rwa [Except.error.inj herror]
  · intro h
    exact ofEntries_eq_error_iff.mpr ⟨cs, entry, [], rfl, h⟩

/-- What follows a collection one by one comes to the same as all in one pass. -/
theorem foldlM_pushEntry (cs : Columns) (entries : List ColumnEntry) :
    entries.foldlM pushEntry cs = ofEntries (cs.toList.map .column ++ entries) := by
  induction entries generalizing cs with
  | nil =>
    rw [List.foldlM_nil, List.append_nil]
    exact (ofEntries_eq_ok_iff.mpr rfl).symm
  | cons entry entries ih =>
    rw [List.foldlM_cons]
    cases hpush : cs.pushEntry entry with
    | ok cs' =>
      obtain ⟨c, rfl, hlist⟩ := pushEntry_eq_ok_iff.mp hpush
      rw [ok_bind, ih, hlist, List.map_append, List.append_assoc]
      rfl
    | error fault =>
      have href := pushEntry_eq_error_iff.mp hpush
      exact (ofEntries_eq_error_iff.mpr ⟨cs, entry, entries, rfl, href⟩).symm

theorem contains_iff_mem_names {cs : Columns} {name : String} :
    cs.contains name = true ↔ name ∈ cs.names := List.contains_iff_mem

/-- Columns of a collection with one name are one column. -/
theorem eq_of_name_eq {cs : Columns} {c d : Column} (hc : c ∈ cs.toList) (hd : d ∈ cs.toList)
    (h : c.name = d.name) : c = d :=
  List.inj_on_of_nodup_map cs.nodup_names hc hd h

theorem find?_eq_some_iff {cs : Columns} {name : String} {c : Column} :
    cs.find? name = some c ↔ c ∈ cs.toList ∧ c.name = name := by
  constructor
  · intro h
    exact ⟨List.mem_of_find?_eq_some h, by simpa using List.find?_some h⟩
  · rintro ⟨hmem, rfl⟩
    cases hfind : cs.find? c.name with
    | none => exact absurd (List.find?_eq_none.mp hfind c hmem) (by simp)
    | some d =>
      have hname : d.name = c.name := by simpa using List.find?_some hfind
      rw [eq_of_name_eq (List.mem_of_find?_eq_some hfind) hmem hname]

theorem get_eq_ok_iff {cs : Columns} {name : Value} {c : Column} :
    cs.get name = .ok c ↔ name = .text c.name ∧ c ∈ cs.toList := by
  unfold get
  constructor
  · intro h
    split at h
    · rename_i d hfound
      obtain ⟨s, hs, hfind⟩ := Option.bind_eq_some_iff.mp hfound
      obtain ⟨hmem, rfl⟩ := find?_eq_some_iff.mp hfind
      rw [← Except.ok.inj h]
      exact ⟨Value.isText_iff.mp (by simp [Value.isText, hs]), hmem⟩
    · exact absurd h (by simp)
  · rintro ⟨rfl, hmem⟩
    have hfound : (Value.text c.name).text?.bind cs.find? = some c :=
      find?_eq_some_iff.mpr ⟨hmem, rfl⟩
    rw [hfound]

theorem exists_get_iff {cs : Columns} {name : String} :
    (∃ c, cs.get (.text name) = .ok c) ↔ name ∈ cs.names := by
  simp only [get_eq_ok_iff, names, List.mem_map, Value.text.injEq]
  exact exists_congr fun c => by rw [and_comm, eq_comm]

theorem eq_missingKey_of_get {cs : Columns} {name : Value} {fault : Fault}
    (h : cs.get name = .error fault) : fault = .missingKey name := by
  unfold get at h
  split at h
  · exact absurd h (by simp)
  · exact (Except.error.inj h).symm

/-- Entries in one pass and entries one by one give the same collection, or stop with the same fault, that
of the first entry that is no column or repeats a name. A collection holds its columns in the order of the
entries; a name is in it, listed by it and found in it alike, and stands for one column only. A further entry
is refused, or makes another collection that begins with the columns of the first. -/
theorem ofEntries_one_by_one (entries : List ColumnEntry) :
    entries.foldlM pushEntry empty = ofEntries entries ∧
      (∀ fault, ofEntries entries = .error fault ↔
        ∃ (front : Columns) (entry : ColumnEntry) (after : List ColumnEntry),
          entries = front.toList.map .column ++ entry :: after ∧
          entry.RefusedAs front.names fault) ∧
      ∀ cs, ofEntries entries = .ok cs →
        entries = cs.toList.map .column ∧ cs.names.Nodup ∧ cs.size = entries.length ∧
        (∀ name, (cs.contains name = true ↔ name ∈ cs.names) ∧
          (name ∈ cs.names ↔ ∃ c, cs.get (.text name) = .ok c)) ∧
        (∀ name c, cs.get name = .ok c →
          name = .text c.name ∧ c ∈ cs.toList ∧ ∀ d ∈ cs.toList, d.name = c.name → d = c) ∧
        (∀ name fault, cs.get name = .error fault → fault = .missingKey name) ∧
        ∀ entry, (∀ fault, cs.pushEntry entry = .error fault ↔ entry.RefusedAs cs.names fault) ∧
          ∀ cs', cs.pushEntry entry = .ok cs' ↔
            ∃ c, entry = .column c ∧ cs'.toList = cs.toList ++ [c] := by
  refine ⟨foldlM_pushEntry empty entries, fun fault => ofEntries_eq_error_iff, ?_⟩
  intro cs h
  have hentries := ofEntries_eq_ok_iff.mp h
  refine ⟨hentries, cs.nodup_names, by rw [hentries, List.length_map, size], ?_, ?_, ?_, ?_⟩
  · exact fun name => ⟨contains_iff_mem_names, exists_get_iff.symm⟩
  · intro name c hget
    obtain ⟨hname, hmem⟩ := get_eq_ok_iff.mp hget
    exact ⟨hname, hmem, fun d hd hsame => eq_of_name_eq hd hmem hsame⟩
  · exact fun name fault => eq_missingKey_of_get
  · exact fun entry => ⟨fun fault => pushEntry_eq_error_iff, fun cs' => pushEntry_eq_ok_iff⟩

/-- Two columns make a collection in which the second is found, and into which neither the first nor a number
is let again. -/
theorem ofEntries_twoColumns :
    let first : Column := ⟨"id", ⟨.redshift, "BIGINT", none, false, none, none⟩, by decide⟩
    let second : Column := ⟨"name", ⟨.snowflake, "VARCHAR", some "5", true, none, none⟩, by decide⟩
    let cs : Columns := ⟨[first, second], by decide⟩
    ofEntries [.column first, .column second] = .ok cs ∧
      (∃ c, cs.get (.text "name") = .ok c) ∧
      cs.pushEntry (.column first) = .error (.definition (.repeatedColumn "id")) ∧
      cs.pushEntry (.other (.int 5)) = .error (.definition (.notColumn (.int 5))) := by
  intro first second cs
  have hcs : ofEntries [.column first, .column second] = .ok cs := rfl
  obtain ⟨_, _, _, hfound, _, _, hpush⟩ := (ofEntries_one_by_one _).2.2 cs hcs
  refine ⟨hcs, (hfound "name").2.mp (by decide), ?_, ?_⟩
  · exact ((hpush (.column first)).1 _).mpr (.repeated (by decide))
  · exact ((hpush (.other (.int 5))).1 _).mpr (.notColumn (.int 5))

end Columns

end WarehouseSchema
