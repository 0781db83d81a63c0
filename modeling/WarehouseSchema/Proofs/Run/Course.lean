import WarehouseSchema.Proofs.Session
import WarehouseSchema.Run

/-!
The course of a run: what a plan asks of a warehouse, told by the answers. A run asks one block of
statements per table, in the order of the plan, up to the first fault. Each of the relations here says
which statements are asked after the earlier ones, and how that ends.
-/

namespace WarehouseSchema

open Text Reflection

/-- The outcome of writing a text file, and the files then. -/
def Files.written (fs : Files) (p : Path) (text : String) : Except Fault Unit × Files :=
  match fs.withFile p text with
  | .ok after => (.ok (), after)
  | .error fault =>
    match fs.makeFolder p.parent with
    | .ok after => (.error fault, after)
    | .error _ => (.error fault, fs)

namespace Plan

def listing (p : Plan) (t : Table) : String := (CatalogQuery.tables t.schema).render p.engine

def dropping (p : Plan) (t : Table) : String := t.dropSql p.engine

/-- The statement that creates a table with its primary keys. -/
def creating (p : Plan) (t : Table) : String :=
  (Statement.create t.schema t.name t.temporary t.columns.toList t.keys).render p.engine

def describing (p : Plan) (t : Table) : String :=
  (CatalogQuery.columns t.schema t.name).render p.engine

def keyListing (p : Plan) (t : Table) : String :=
  (CatalogQuery.keys t.schema t.name).render p.engine

def describedNames (p : Plan) (rows : List Record) : Except Fault (List String) :=
  (describedColumns p.engine rows).map Columns.names

def exported (p : Plan) (t : Table) (fs : Files) : Except Fault Unit × Files :=
  if p.exportFolder.isTruthy then
    match p.exportFolder with
    | .text folder => fs.written (t.exportPath (Path.ofText folder)) (Yaml.write t.toPlain)
    | _ => (.error .wrongType, fs)
  else (.ok (), fs)

variable (p : Plan) (b : Backend) (t : Table)

/-- The verification of a table: its columns are described, and only when their names match, and there
are keys, the keys are listed. -/
inductive Verification (earlier : List String) : List String → Except Fault Unit → Prop where
  | undescribed {fault : Fault} :
      b.read earlier (p.describing t) p.describedNames = .error fault →
        Verification earlier [p.describing t] (.error fault)
  | columnsDiffer {names : List String} :
      b.read earlier (p.describing t) p.describedNames = .ok names →
        names.map lower ≠ t.columns.names.map lower →
          Verification earlier [p.describing t] (.error (.verification .columns t.schema t.name
            (t.columns.names.map lower) (names.map lower)))
  | keyless {names : List String} :
      b.read earlier (p.describing t) p.describedNames = .ok names →
        names.map lower = t.columns.names.map lower → t.keys = [] →
          Verification earlier [p.describing t] (.ok ())
  | keysUnlisted {names : List String} {fault : Fault} :
      b.read earlier (p.describing t) p.describedNames = .ok names →
        names.map lower = t.columns.names.map lower → t.keys ≠ [] →
          b.read (earlier ++ [p.describing t]) (p.keyListing t) (keyNames p.engine) =
            .error fault →
            Verification earlier [p.describing t, p.keyListing t] (.error fault)
  | keysDiffer {names keys : List String} :
      b.read earlier (p.describing t) p.describedNames = .ok names →
        names.map lower = t.columns.names.map lower → t.keys ≠ [] →
          b.read (earlier ++ [p.describing t]) (p.keyListing t) (keyNames p.engine) = .ok keys →
            keys.map lower ≠ t.keys.map lower →
              Verification earlier [p.describing t, p.keyListing t] (.error (.verification .keys
                t.schema t.name (t.keys.map lower) (keys.map lower)))
  | keysMatch {names keys : List String} :
      b.read earlier (p.describing t) p.describedNames = .ok names →
        names.map lower = t.columns.names.map lower → t.keys ≠ [] →
          b.read (earlier ++ [p.describing t]) (p.keyListing t) (keyNames p.engine) = .ok keys →
            keys.map lower = t.keys.map lower →
              Verification earlier [p.describing t, p.keyListing t] (.ok ())

/-- The creation of a table, with its export and, if the plan asks for it and the table lasts, its
verification. -/
inductive Creation (earlier : List String) (fs : Files) :
    List String → Except Fault Unit → Files → Prop where
  | refused {failure : QueryFailure} : b.answer earlier (p.creating t) = .error failure →
      Creation earlier fs [p.creating t] (.error (.query failure)) fs
  | unexported {rows : List Record} {fault : Fault} {after : Files} :
      b.answer earlier (p.creating t) = .ok rows → p.exported t fs = (.error fault, after) →
        Creation earlier fs [p.creating t] (.error fault) after
  | unverified {rows : List Record} {after : Files} :
      b.answer earlier (p.creating t) = .ok rows → p.exported t fs = (.ok (), after) →
        (p.verifies = false ∨ t.temporary = true) →
          Creation earlier fs [p.creating t] (.ok ()) after
  | verified {rows : List Record} {after : Files} {asked : List String}
      {r : Except Fault Unit} :
      b.answer earlier (p.creating t) = .ok rows → p.exported t fs = (.ok (), after) →
        p.verifies = true → t.temporary = false →
          Verification p b t (earlier ++ [p.creating t]) asked r →
            Creation earlier fs (p.creating t :: asked) r after

/-- The block of statements of a table. -/
inductive Block (earlier : List String) (fs : Files) :
    List String → Except Fault Unit → Files → Prop where
  | temporary {asked : List String} {r : Except Fault Unit} {after : Files} :
      t.temporary = true → Creation p b t earlier fs asked r after →
        Block earlier fs asked r after
  | unlisted {fault : Fault} : t.temporary = false →
      b.read earlier (p.listing t) (listedNames p.engine) = .error fault →
        Block earlier fs [p.listing t] (.error fault) fs
  | skipped {names : List String} : t.temporary = false →
      b.read earlier (p.listing t) (listedNames p.engine) = .ok names → t.name ∈ names →
        p.replaces = false → Block earlier fs [p.listing t] (.ok ()) fs
  | undropped {names : List String} {failure : QueryFailure} : t.temporary = false →
      b.read earlier (p.listing t) (listedNames p.engine) = .ok names → t.name ∈ names →
        p.replaces = true →
          b.answer (earlier ++ [p.listing t]) (p.dropping t) = .error failure →
            Block earlier fs [p.listing t, p.dropping t] (.error (.query failure)) fs
  | replaced {names : List String} {rows : List Record} {asked : List String}
      {r : Except Fault Unit} {after : Files} : t.temporary = false →
      b.read earlier (p.listing t) (listedNames p.engine) = .ok names → t.name ∈ names →
        p.replaces = true → b.answer (earlier ++ [p.listing t]) (p.dropping t) = .ok rows →
          Creation p b t (earlier ++ [p.listing t, p.dropping t]) fs asked r after →
            Block earlier fs (p.listing t :: p.dropping t :: asked) r after
  | new {names : List String} {asked : List String} {r : Except Fault Unit} {after : Files} :
      t.temporary = false → b.read earlier (p.listing t) (listedNames p.engine) = .ok names →
        t.name ∉ names → Creation p b t (earlier ++ [p.listing t]) fs asked r after →
          Block earlier fs (p.listing t :: asked) r after

/-- The blocks of tables, one after the other, up to the first fault. -/
inductive Course : List String → Files → List Table → List String → Except Fault Unit → Files →
    Prop where
  | done (earlier : List String) (fs : Files) : Course earlier fs [] [] (.ok ()) fs
  | cut {earlier asked : List String} {fs after : Files} {t : Table} {rest : List Table}
      {fault : Fault} : Block p b t earlier fs asked (.error fault) after →
        Course earlier fs (t :: rest) asked (.error fault) after
  | next {earlier asked more : List String} {fs fs' after : Files} {t : Table}
      {rest : List Table} {r : Except Fault Unit} : Block p b t earlier fs asked (.ok ()) fs' →
        Course (earlier ++ asked) fs' rest more r after →
          Course earlier fs (t :: rest) (asked ++ more) r after

end Plan

end WarehouseSchema
