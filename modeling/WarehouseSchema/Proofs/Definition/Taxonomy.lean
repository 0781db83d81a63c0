import WarehouseSchema.Proofs.Definition.Acceptance
import WarehouseSchema.Proofs.Definition.Reached

/-!
The faults of definitions. `Definition.Obstructed` says, by the documented tables and the order of the checks,
where an integer that is too long has to be read or written on the way to a definition, or a value to be written
that is nested too deeply. Main statement: everywhere else a definition is made or refused with a definition
fault, and an unfit length always with a length fault.
-/

namespace WarehouseSchema

open Text Number

/-! ## What has to be read or written -/

namespace Engine

/-- The type name and the options are known; `name` is the catalogue's spelling of the type. -/
structure Knows (e : Engine) (type : Value) (options : Record) (name : String) : Prop where
  type : ∃ s, type = .text s ∧ name = upper (squeeze s)
  type_mem : name ∈ e.types
  options_known : ∀ o ∈ options, o.1 ∈ e.options

/-- A length can be written if need be, and is not too long to be read. -/
structure ShortLength (e : Engine) (name : String) (length : Value) : Prop where
  writable : length.Writable
  readable : ∀ s, LengthText length s → ¬ (e.documentedRule name).TooLong s.toList

/-- The length is absent or blank, or one that the type takes. -/
def LengthFits (e : Engine) (name : String) (length : Value) : Prop :=
  length = .null ∨ ∃ s, LengthText length s ∧ (s = "" ∨ (e.documentedRule name).Allows s.toList)

end Engine

namespace Definition

/-- Nullability is not said, or said by a truth value. -/
def NullableFits (options : Record) : Prop :=
  options.find? "nullable" = none ∨ ∃ b, options.find? "nullable" = some (.bool b)

/-- On the way to a definition there is an obstacle: a type that is no text, a length that is neither text nor
integer or a truth value that is none has to be shown, a length to be written and read, a default or a codec to
be stored. -/
inductive Obstructed (e : Engine) (type : Value) (options : Record) : Obstacle → Prop where
  | type {o : Obstacle} : (∀ s, type ≠ .text s) → type.obstacle? = some o →
      Obstructed e type options o
  | length {name : String} {o : Obstacle} : e.Knows type options name →
      (options.get "length").obstacle? = some o → Obstructed e type options o
  | digits {name s : String} : e.Knows type options name → (options.get "length").Writable →
      LengthText (options.get "length") s → (e.documentedRule name).TooLong s.toList →
        Obstructed e type options .long
  | nullable {name : String} {v : Value} {o : Obstacle} : e.Knows type options name →
      e.ShortLength name (options.get "length") → e.LengthFits name (options.get "length") →
        options.find? "nullable" = some v → (∀ b, v ≠ .bool b) → v.obstacle? = some o →
          Obstructed e type options o
  | default {name : String} {o : Obstacle} : e.Knows type options name →
      e.ShortLength name (options.get "length") → e.LengthFits name (options.get "length") →
        NullableFits options → (options.get "default").obstacle? = some o →
          Obstructed e type options o
  | compression {name : String} {o : Obstacle} : e.Knows type options name →
      e.ShortLength name (options.get "length") → e.LengthFits name (options.get "length") →
        NullableFits options → (options.get "default").Writable →
          (options.get "compression").obstacle? = some o → Obstructed e type options o

variable {e : Engine} {type v : Value} {options : Record} {name : String} {o : Obstacle}

/-! ## The checks, one by one -/

theorem obstacleOf_shown {before : String} :
    obstacleOf (do return before ++ (← v.literal)) = v.obstacle? := by
  rw [obstacleOf_bind_pure, Value.obstacleOf_literal]

theorem knows_iff : e.Knows type options name ↔
    e.normalizeType type = .ok name ∧ e.checkOptions options = .ok () := by
  rw [Engine.normalizeType_eq_ok_iff, Engine.checkOptions_eq_ok_iff]
  constructor
  · rintro ⟨⟨s, hs, hname⟩, hmem, hoptions⟩
    exact ⟨⟨s, hs, hname, hmem⟩, hoptions⟩
  · rintro ⟨⟨s, hs, hname, hmem⟩, hoptions⟩
    exact ⟨⟨s, hs, hname⟩, hmem, hoptions⟩

theorem normalizeType_of_not_text (h : ∀ s, type ≠ .text s) :
    e.normalizeType type = (DefinitionFault.typeNotText type).raise := by
  cases type with
  | text s => exact absurd rfl (h s)
  | _ => rfl

theorem definite_normalizeType (h : (∀ s, type ≠ .text s) → type.Writable) :
    Definite (e.normalizeType type) := by
  by_cases htext : ∃ s, type = .text s
  · obtain ⟨s, rfl⟩ := htext
    exact e.definite_normalizeType s
  · have hnot : ∀ s, type ≠ .text s := fun s hs => htext ⟨s, hs⟩
    rw [normalizeType_of_not_text hnot]
    exact DefinitionFault.definite_raise (obstacleOf_shown.trans (h hnot))

/-- A length that is no text and no integer is only shown. -/
theorem lengthText_or (v : Value) : v = .null ∨ (∃ s, LengthText v s) ∨
    (∀ s, ¬ LengthText v s) ∧ normalizeLength v = (DefinitionFault.lengthNotTextual v).raise := by
  cases v with
  | null => exact Or.inl rfl
  | int n => exact Or.inr (Or.inl ⟨_, .integer n⟩)
  | text s => exact Or.inr (Or.inl ⟨_, .text s⟩)
  | _ =>
    refine Or.inr (Or.inr ⟨?_, rfl⟩)
    intro s h
    cases h

theorem definite_normalizeLength (h : v.Writable) : Definite (normalizeLength v) := by
  rcases lengthText_or v with rfl | ⟨s, hs⟩ | ⟨_, hraise⟩
  · exact .ok none
  · rw [normalizeLength_of_lengthText h hs]
    exact .ok _
  · rw [hraise]
    exact DefinitionFault.definite_raise (obstacleOf_shown.trans h)

theorem stopsAt_normalizeLength (h : v.obstacle? = some o) : StopsAt o (normalizeLength v) := by
  rcases lengthText_or v with rfl | ⟨s, hs⟩ | ⟨_, hraise⟩
  · exact absurd h (by simp [Value.obstacle?_null])
  · cases hs with
    | integer n => exact (Value.stopsAt_writeInt h).bind _
    | text s => exact absurd h (by simp [Value.obstacle?_text])
  · rw [hraise]
    exact DefinitionFault.stopsAt_raise (obstacleOf_shown.trans h)

/-- What is left to check of a length is its text, if it has one that is not blank. -/
theorem lengthText_of_normalizeLength {s : String} (h : normalizeLength v = .ok (some s)) :
    LengthText v s ∧ s ≠ "" := by
  rcases normalizeLength_eq_ok_iff.mp h with ⟨_, hs⟩ | ⟨n, rfl, t, ht, hs⟩ | ⟨t, rfl, hs⟩
  · exact absurd hs (by simp)
  · obtain rfl := Option.some.inj hs
    obtain rfl := Value.eq_of_writeInt ht
    exact ⟨.integer n, intText_ne_empty n⟩
  · split at hs
    · exact absurd hs (by simp)
    · rename_i hne
      obtain rfl := Option.some.inj hs
      exact ⟨.text t, hne⟩

section
variable {length : Option String} (hname : name ∈ e.types)
include hname

theorem definite_lengthCheck (hshort : e.ShortLength name v) (h : normalizeLength v = .ok length) :
    Definite (checkLength (e.lengthRule name) name length) := by
  refine definite_checkLength ?_
  rintro s rfl
  rw [lengthRule_eq_documentedRule hname]
  cases hfault : (e.documentedRule name).faultOf s with
  | ok r => exact ⟨r, rfl⟩
  | error fault =>
    exact absurd (tooLong_of_faultOf hfault) (hshort.readable s (lengthText_of_normalizeLength h).1)

theorem lengthFits_of_checks (h : normalizeLength v = .ok length)
    (hcheck : checkLength (e.lengthRule name) name length = .ok ()) : e.LengthFits name v := by
  rw [lengthRule_eq_documentedRule hname, checkLength_eq_ok_iff] at hcheck
  rcases normalizeLength_eq_ok_iff.mp h with ⟨hnull, _⟩ | ⟨n, rfl, s, hs, rfl⟩ | ⟨s, rfl, rfl⟩
  · exact Or.inl hnull
  · obtain rfl := Value.eq_of_writeInt hs
    exact Or.inr ⟨_, .integer n, Or.inr (allows_of_faultOf (hcheck _ rfl))⟩
  · refine Or.inr ⟨_, .text s, ?_⟩
    by_cases hblank : trim s = ""
    · exact Or.inl hblank
    · exact Or.inr (allows_of_faultOf (hcheck _ (by rw [if_neg hblank])))

/-- A length that fits and is short passes both checks. -/
theorem exists_length_of_fits (hshort : e.ShortLength name v) (hfits : e.LengthFits name v) :
    ∃ length, normalizeLength v = .ok length ∧
      checkLength (e.lengthRule name) name length = .ok () :=
  exists_length hname hshort.writable (fun s hs _ => hshort.readable s hs) hfits

/-- A length of too many digits is not read. -/
theorem stopsAt_lengthCheck {s : String} (hwritable : v.Writable) (hs : LengthText v s)
    (hlong : (e.documentedRule name).TooLong s.toList) : ∃ length, normalizeLength v = .ok length ∧
      StopsAt .long (checkLength (e.lengthRule name) name length) := by
  obtain ⟨fault, hfault⟩ := faultOf_of_tooLong hlong
  have hne : s ≠ "" := by
    rintro rfl
    exact not_tooLong_nil hlong
  refine ⟨_, normalizeLength_of_lengthText hwritable hs, ?_⟩
  rw [if_neg hne, checkLength, lengthRule_eq_documentedRule hname, hfault]
  exact ⟨fault, rfl⟩

/-- A short length that does not fit is refused with a length fault, by the first check or the second. -/
theorem lengthFault_of_unfit (hshort : e.ShortLength name v) (hunfit : ¬ e.LengthFits name v) :
    ∃ fault : DefinitionFault, fault.category = .length ∧
      (normalizeLength v = .error (.definition fault) ∨ ∃ length, normalizeLength v = .ok length ∧
        checkLength (e.lengthRule name) name length = .error (.definition fault)) := by
  rcases lengthText_or v with rfl | ⟨s, hs⟩ | ⟨_, hraise⟩
  · exact absurd (Or.inl rfl) hunfit
  · have hne : s ≠ "" := fun hblank => hunfit (Or.inr ⟨s, hs, Or.inl hblank⟩)
    have hlength := normalizeLength_of_lengthText hshort.writable hs
    rw [if_neg hne] at hlength
    rw [lengthRule_eq_documentedRule hname]
    cases hfault : (e.documentedRule name).faultOf s with
    | error fault => exact absurd (tooLong_of_faultOf hfault) (hshort.readable s hs)
    | ok r =>
      cases r with
      | none => exact absurd (Or.inr ⟨s, hs, Or.inr (allows_of_faultOf hfault)⟩) hunfit
      | some fault =>
        have hraise : (DefinitionFault.badLength name s fault).raise =
            (.error (.definition (.badLength name s fault)) : Except Fault Unit) :=
          DefinitionFault.raise_eq_error rfl
        refine ⟨.badLength name s fault, rfl, Or.inr ⟨some s, hlength, ?_⟩⟩
        rw [checkLength, hfault]
        exact hraise
  · refine ⟨.lengthNotTextual v, rfl, Or.inl ?_⟩
    rw [hraise]
    obtain ⟨text, htext⟩ := obstacleOf_eq_none_iff.mp (obstacleOf_shown.trans hshort.writable)
    exact DefinitionFault.raise_eq_error htext

end

theorem definite_normalizeNullable {o : Option Value}
    (h : ∀ v, o = some v → (∀ b, v ≠ .bool b) → v.Writable) : Definite (normalizeNullable o) := by
  unfold normalizeNullable
  split
  · exact .ok true
  · exact .ok _
  · rename_i v hnot
    have hwritable : v.Writable := h v rfl fun b hb => hnot b (hb ▸ rfl)
    exact DefinitionFault.definite_raise (obstacleOf_shown.trans hwritable)

theorem stopsAt_normalizeNullable (hnot : ∀ b, v ≠ .bool b) (h : v.obstacle? = some o) :
    StopsAt o (normalizeNullable (some v)) := by
  have hraise : normalizeNullable (some v) = (DefinitionFault.nullableNotBoolean v).raise := by
    cases v with
    | bool b => exact absurd rfl (hnot b)
    | _ => rfl
  rw [hraise]
  exact DefinitionFault.stopsAt_raise (obstacleOf_shown.trans h)

theorem nullableFits_iff :
    NullableFits options ↔ ∃ b, normalizeNullable (options.find? "nullable") = .ok b := by
  simp only [NullableFits, normalizeNullable_eq_ok_iff]
  constructor
  · rintro (hnone | ⟨b, hb⟩)
    · exact ⟨true, Or.inl ⟨hnone, rfl⟩⟩
    · exact ⟨b, Or.inr hb⟩
  · rintro ⟨b, ⟨hnone, _⟩ | hb⟩
    · exact Or.inl hnone
    · exact Or.inr ⟨b, hb⟩

theorem stopsAt_normalizeDefault (h : v.obstacle? = some o) : StopsAt o (normalizeDefault v) := by
  unfold normalizeDefault
  split
  · exact absurd h (by simp [Value.obstacle?_null])
  · exact (Value.stopsAt_display h).bind _

theorem definite_normalizeCompression (h : v.Writable) :
    Definite (e.normalizeCompression name v) := by
  have hdisplay : obstacleOf v.display = none := (Value.obstacleOf_display v).trans h
  unfold Engine.normalizeCompression
  split
  · exact .ok none
  · refine (definite_ofText hdisplay).bind fun shown _ => ?_
    dsimp only
    split
    · exact .ok none
    · split
      · have hmessage : obstacleOf (DefinitionFault.unknownCompression e v).message = none := by
          rw [DefinitionFault.message, obstacleOf_bind_pure, hdisplay]
        exact DefinitionFault.definite_raise hmessage
      · split
        · exact .ok _
        · exact DefinitionFault.definite_raise rfl

theorem stopsAt_normalizeCompression (h : v.obstacle? = some o) :
    StopsAt o (e.normalizeCompression name v) := by
  unfold Engine.normalizeCompression
  split
  · exact absurd h (by simp [Value.obstacle?_null])
  · exact (Value.stopsAt_display h).bind _

/-! ## All checks -/

/-- Without an obstacle, a definition is made or there is a definition fault. -/
theorem definite_make (h : ∀ o, ¬ Obstructed e type options o) : Definite (make e type options) := by
  have hwritable : ∀ {v : Value}, (∀ o, v.obstacle? = some o → Obstructed e type options o) →
      v.Writable :=
    fun hv => Option.eq_none_iff_forall_ne_some.mpr fun o ho => h o (hv o ho)
  unfold make
  refine (definite_normalizeType fun hnot => ?_).bind fun name htype => ?_
  · exact hwritable fun o ho => .type hnot ho
  refine (e.definite_checkOptions options).bind fun _ hoptions => ?_
  have hknows : e.Knows type options name := knows_iff.mpr ⟨htype, hoptions⟩
  have hwritten : (options.get "length").Writable := hwritable fun o ho => .length hknows ho
  have hshort : e.ShortLength name (options.get "length") :=
    ⟨hwritten, fun s hs hlong => h .long (.digits hknows hwritten hs hlong)⟩
  refine (definite_normalizeLength hwritten).bind fun length hlength => ?_
  refine (definite_lengthCheck hknows.type_mem hshort hlength).bind fun _ hcheck => ?_
  have hfits := lengthFits_of_checks hknows.type_mem hlength hcheck
  refine (definite_normalizeNullable fun v hv hnot => ?_).bind fun nullable hnullable => ?_
  · exact hwritable fun o ho => .nullable hknows hshort hfits hv hnot ho
  have hboolean : NullableFits options := nullableFits_iff.mpr ⟨nullable, hnullable⟩
  have hdefault : (options.get "default").Writable :=
    hwritable fun o ho => .default hknows hshort hfits hboolean ho
  obtain ⟨default, hstored⟩ := exists_default hdefault
  rw [hstored, ok_bind]
  refine (definite_normalizeCompression ?_).bind fun compression _ => .ok _
  exact hwritable fun o ho => .compression hknows hshort hfits hboolean hdefault ho

theorem make_of_knows (hknows : e.Knows type options name) : make e type options = (do
    let length ← normalizeLength (options.get "length")
    checkLength (e.lengthRule name) name length
    let nullable ← normalizeNullable (options.find? "nullable")
    let default ← normalizeDefault (options.get "default")
    let compression ← e.normalizeCompression name (options.get "compression")
    return { engine := e, type := name, length, nullable, default, compression }) := by
  obtain ⟨htype, hoptions⟩ := knows_iff.mp hknows
  rw [make, htype, ok_bind, hoptions, ok_bind]

/-- What is left when the length fits. -/
theorem make_of_length (hknows : e.Knows type options name)
    (hshort : e.ShortLength name (options.get "length"))
    (hfits : e.LengthFits name (options.get "length")) : ∃ length, make e type options = (do
      let nullable ← normalizeNullable (options.find? "nullable")
      let default ← normalizeDefault (options.get "default")
      let compression ← e.normalizeCompression name (options.get "compression")
      return { engine := e, type := name, length, nullable, default, compression }) := by
  obtain ⟨length, hlength, hcheck⟩ := exists_length_of_fits hknows.type_mem hshort hfits
  refine ⟨length, ?_⟩
  rw [make_of_knows hknows, hlength, ok_bind, hcheck, ok_bind]

theorem make_of_unfit (hknows : e.Knows type options name)
    (hshort : e.ShortLength name (options.get "length"))
    (hunfit : ¬ e.LengthFits name (options.get "length")) :
    ∃ fault, make e type options = .error (.definition fault) ∧ fault.category = .length := by
  obtain ⟨fault, hcategory, hlength | ⟨length, hlength, hcheck⟩⟩ :=
    lengthFault_of_unfit hknows.type_mem hshort hunfit
  · refine ⟨fault, ?_, hcategory⟩
    rw [make_of_knows hknows, hlength]
    rfl
  · refine ⟨fault, ?_, hcategory⟩
    rw [make_of_knows hknows, hlength, ok_bind, hcheck]
    rfl

/-- At an obstacle, no definition is made and there is no definition fault. -/
theorem stopsAt_make (h : Obstructed e type options o) : StopsAt o (make e type options) := by
  cases h with
  | type hnot ho =>
    have hmessage : obstacleOf (DefinitionFault.typeNotText type).message = some o :=
      obstacleOf_shown.trans ho
    unfold make
    rw [normalizeType_of_not_text hnot]
    exact (DefinitionFault.stopsAt_raise hmessage).bind _
  | length hknows ho =>
    rw [make_of_knows hknows]
    exact (stopsAt_normalizeLength ho).bind _
  | digits hknows hwritable hs hlong =>
    obtain ⟨length, hlength, hcheck⟩ := stopsAt_lengthCheck hknows.type_mem hwritable hs hlong
    rw [make_of_knows hknows, hlength, ok_bind]
    exact hcheck.bind _
  | nullable hknows hshort hfits hv hnot ho =>
    obtain ⟨length, hmake⟩ := make_of_length hknows hshort hfits
    rw [hmake, hv]
    exact (stopsAt_normalizeNullable hnot ho).bind _
  | default hknows hshort hfits hboolean ho =>
    obtain ⟨length, hmake⟩ := make_of_length hknows hshort hfits
    obtain ⟨nullable, hnullable⟩ := nullableFits_iff.mp hboolean
    rw [hmake, hnullable, ok_bind]
    exact (stopsAt_normalizeDefault ho).bind _
  | compression hknows hshort hfits hboolean hdefault ho =>
    obtain ⟨length, hmake⟩ := make_of_length hknows hshort hfits
    obtain ⟨nullable, hnullable⟩ := nullableFits_iff.mp hboolean
    obtain ⟨default, hstored⟩ := exists_default hdefault
    rw [hmake, hnullable, ok_bind, hstored, ok_bind]
    exact (stopsAt_normalizeCompression ho).bind _

/-- The making of a definition stops at an obstacle exactly where there is this one. -/
theorem stopsAt_make_iff : StopsAt o (make e type options) ↔ Obstructed e type options o := by
  constructor
  · intro hstops
    by_contra hnone
    refine hstops.not_definite (definite_make fun o' ho' => ?_)
    obtain rfl := hstops.unique (stopsAt_make ho')
    exact hnone ho'
  · exact stopsAt_make

/-- A definition is made or refused with a definition fault, unless there is an obstacle: an integer that is
too long to be read or written, with a numeral fault, or a value that is nested too deeply to be written, with
another fault. Every length without an obstacle that the type does not take is a length fault. -/
theorem make_definite_iff (e : Engine) (type : Value) (options : Record) :
    (((∃ d, make e type options = .ok d) ∨
        ∃ fault, make e type options = .error (.definition fault)) ↔
          ∀ o, ¬ Obstructed e type options o) ∧
      ((∃ fault, make e type options = .error (.numeral fault)) ↔
        Obstructed e type options .long) ∧
      (make e type options = .error .recursion ↔ Obstructed e type options .deep) ∧
      ∀ name, e.Knows type options name → e.ShortLength name (options.get "length") →
        ¬ e.LengthFits name (options.get "length") →
          ∃ fault, make e type options = .error (.definition fault) ∧ fault.category = .length := by
  have hiff : ∀ o, StopsAt o (make e type options) ↔ Obstructed e type options o :=
    fun _ => stopsAt_make_iff
  refine ⟨⟨fun hdefinite o ho => ?_, definite_make⟩, hiff .long, hiff .deep, fun _ => make_of_unfit⟩
  exact (stopsAt_make ho).not_definite hdefinite

/-- A length of more digits than are read. -/
def endlessLength : String := String.ofList (List.replicate (digitLimit + 1) '1')

/-- A length that is far too great for its type is not refused with a definition fault. -/
theorem make_endlessLength :
    ¬ ((∃ d, make .redshift (.text "VARCHAR") [("length", .text endlessLength)] = .ok d) ∨
      ∃ fault, make .redshift (.text "VARCHAR") [("length", .text endlessLength)] =
        .error (.definition fault)) := by
  have hdigits : ∀ c ∈ List.replicate (digitLimit + 1) '1', isDigit c = true := by
    intro c hc
    rw [List.eq_of_mem_replicate hc]
    decide
  have hbare : Bare (List.replicate (digitLimit + 1) '1') :=
    bare_of_forall fun c hc => isBlank_of_isDigit (hdigits c hc)
  have htrimmed : (trim endlessLength).toList = List.replicate (digitLimit + 1) '1' := by
    rw [toList_trim, endlessLength, String.toList_ofList, trimChars_of_bare hbare]
  have hlong : LongNumber (List.replicate (digitLimit + 1) '1') := by
    refine ⟨[], _, [], by rw [List.nil_append, List.append_nil], by simp, by simp, hdigits, ?_⟩
    rw [List.length_replicate]
    exact Nat.lt_succ_self _
  have hrule : Engine.redshift.documentedRule "VARCHAR" = .integer 1 65535 := by decide +kernel
  have hlength : Record.get [("length", .text endlessLength)] "length" = .text endlessLength := rfl
  have hknows : Engine.redshift.Knows (.text "VARCHAR") [("length", .text endlessLength)] "VARCHAR" :=
    ⟨⟨"VARCHAR", rfl, by decide +kernel⟩, by decide +kernel, by decide +kernel⟩
  have htext : LengthText (Record.get [("length", .text endlessLength)] "length")
      (trim endlessLength) := hlength ▸ .text endlessLength
  refine (stopsAt_make (.digits hknows ?_ htext ?_)).not_definite
  · rw [hlength]
    exact Value.obstacle?_text _
  · rw [hrule, htrimmed]
    exact .integer hlong

end Definition

end WarehouseSchema
