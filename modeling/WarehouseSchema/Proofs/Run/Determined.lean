import WarehouseSchema.Proofs.Run.Course

/-!
The course of a run is determined. What was asked before, the files and what the backend answers leave
one way for each table, and so one for the tables of a plan.
-/

namespace WarehouseSchema

open Text Reflection

namespace Plan

variable {p : Plan} {b : Backend} {t : Table} {earlier asked asked' : List String}
  {fs after after' : Files} {r r' : Except Fault Unit}

theorem Verification.unique (h : Verification p b t earlier asked r)
    (h' : Verification p b t earlier asked' r') : asked = asked' ∧ r = r' := by
  cases h <;> cases h' <;> simp_all

theorem Creation.unique (h : Creation p b t earlier fs asked r after)
    (h' : Creation p b t earlier fs asked' r' after') : asked = asked' ∧ r = r' ∧ after = after' := by
  cases h with
  | verified _ hexported _ _ hverification =>
    cases h' with
    | verified _ hexported' _ _ hverification' =>
      obtain ⟨rfl, rfl⟩ := hverification.unique hverification'
      rw [hexported] at hexported'
      exact ⟨rfl, rfl, (Prod.mk.inj hexported').2⟩
    | _ => simp_all
  | _ => cases h' <;> simp_all

theorem Block.unique (h : Block p b t earlier fs asked r after)
    (h' : Block p b t earlier fs asked' r' after') : asked = asked' ∧ r = r' ∧ after = after' := by
  cases h with
  | temporary _ hcreation =>
    cases h' with
    | temporary _ hcreation' => exact hcreation.unique hcreation'
    | _ => simp_all
  | replaced _ _ _ _ _ hcreation =>
    cases h' with
    | replaced _ _ _ _ _ hcreation' =>
      obtain ⟨rfl, hrest⟩ := hcreation.unique hcreation'
      exact ⟨rfl, hrest⟩
    | _ => simp_all
  | new _ _ _ hcreation =>
    cases h' with
    | new _ _ _ hcreation' =>
      obtain ⟨rfl, hrest⟩ := hcreation.unique hcreation'
      exact ⟨rfl, hrest⟩
    | _ => simp_all
  | _ => cases h' <;> simp_all

theorem Course.unique {tables : List Table} (h : Course p b earlier fs tables asked r after)
    (h' : Course p b earlier fs tables asked' r' after') :
    asked = asked' ∧ r = r' ∧ after = after' := by
  induction h generalizing asked' r' after' with
  | done => cases h' with | done => exact ⟨rfl, rfl, rfl⟩
  | cut hblock =>
    cases h' with
    | cut hblock' => exact hblock.unique hblock'
    | next hblock' _ => exact absurd (hblock.unique hblock').2.1 (by simp)
  | next hblock _ ih =>
    cases h' with
    | cut hblock' => exact absurd (hblock.unique hblock').2.1 (by simp)
    | next hblock' hrest =>
      obtain ⟨rfl, _, rfl⟩ := hblock.unique hblock'
      obtain ⟨rfl, hend⟩ := ih hrest
      exact ⟨rfl, hend⟩

section
variable {tables rest : List Table} {more : List String} {between : Files}

/-- A course over tables is a course over the first of them, and behind it one over the others. -/
theorem Course.append (h : Course p b earlier fs tables asked (.ok ()) between)
    (h' : Course p b (earlier ++ asked) between rest more r after) :
    Course p b earlier fs (tables ++ rest) (asked ++ more) r after := by
  generalize hr : (.ok () : Except Fault Unit) = outcome at h
  induction h with
  | done => simpa using h'
  | cut _ => cases hr
  | next hblock _ ih =>
    rw [List.append_assoc]
    exact .next hblock (ih (by rwa [List.append_assoc]) hr)

/-- A course that begins with tables that are made without a fault goes on behind them. -/
theorem Course.split (h : Course p b earlier fs (tables ++ rest) asked r after)
    (h' : Course p b earlier fs tables more (.ok ()) between) :
    ∃ last, asked = more ++ last ∧ Course p b (earlier ++ more) between rest last r after := by
  generalize hr : (.ok () : Except Fault Unit) = outcome at h'
  induction h' generalizing asked r after with
  | done earlier fs => exact ⟨asked, rfl, by simpa using h⟩
  | cut _ => cases hr
  | next hblock _ ih =>
    cases h with
    | cut hblock' => exact absurd (hblock.unique hblock').2.1 (by simp)
    | next hblock' hrest =>
      obtain ⟨rfl, _, rfl⟩ := hblock.unique hblock'
      obtain ⟨last, rfl, hlast⟩ := ih hrest hr
      refine ⟨last, (List.append_assoc _ _ _).symm, ?_⟩
      rwa [← List.append_assoc]

/-- A course that stops has a first table whose block does. -/
theorem Course.exists_cut {fault : Fault}
    (h : Course p b earlier fs tables asked (.error fault) after) :
    ∃ front t later first last between, tables = front ++ t :: later ∧ asked = first ++ last ∧
      Course p b earlier fs front first (.ok ()) between ∧
      Block p b t (earlier ++ first) between last (.error fault) after := by
  generalize hr : (.error fault : Except Fault Unit) = outcome at h
  induction h with
  | done => cases hr
  | @cut earlier asked fs after t rest _ hblock =>
    cases hr
    exact ⟨[], t, rest, [], asked, fs, rfl, rfl, .done _ _, by simpa using hblock⟩
  | next hblock _ ih =>
    obtain ⟨front, u, later, first, last, between, rfl, rfl, hfront, hcut⟩ := ih hr
    refine ⟨_ :: front, u, later, _ ++ first, last, between, rfl, ?_, .next hblock hfront, ?_⟩
    · rw [List.append_assoc]
    · rwa [← List.append_assoc]

end

end Plan

end WarehouseSchema
