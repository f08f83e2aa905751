import SchemaScript.Catalog.Row

/-!
# Parameters by direction

The parameters of a direction are those of the rows with its code, in the order of the rows (`ParameterRow.select_eq_map_filter`). They
are also what reading the rows one by one gathers: each row puts its parameter behind those of its direction, or nowhere
(`Procedure.add`), and so a run through some rows puts the parameters of one code behind the inputs, those of the other behind the
outputs, and leaves the rest as it was (`Procedure.foldl_add`). So it does not matter how rows of the two directions and of none are
mixed (`ProcedureRow.toProcedure_parts_directions`).
-/

namespace SchemaScript

open Catalog

namespace Catalog

/-- The code 0 stands for an input, and no other code does. -/
theorem Direction.ofCode?_eq_input_iff (code : Int16) : ofCode? code = some .input ↔ code = 0 := by
  by_cases h : code = 0
  · simp [ofCode?, h]
  · by_cases h' : code = 1 <;> simp [ofCode?, h, h']

/-- The code 1 stands for an output, and no other code does. -/
theorem Direction.ofCode?_eq_output_iff (code : Int16) : ofCode? code = some .output ↔ code = 1 := by
  by_cases h : code = 0
  · simp [ofCode?, h]
  · by_cases h' : code = 1 <;> simp [ofCode?, h, h']

/-- The parameters of a direction are those of the rows with its code. -/
theorem ParameterRow.select_eq_map_filter {d : Direction} {code : Int16} (h : ∀ c, Direction.ofCode? c = some d ↔ c = code)
    (rows : List ParameterRow) : select d rows = (rows.filter (·.directionCode = code)).map toParameter := by
  have hfilter : rows.filter (·.direction? == some d) = rows.filter (·.directionCode = code) := by
    refine List.filter_congr fun row _ => ?_
    rw [Bool.eq_iff_iff, decide_eq_true_iff, beq_iff_eq]
    exact h row.directionCode
  rw [select, hfilter]

end Catalog

/-! ## Reading the rows one by one -/

namespace Procedure

/-- A procedure with the parameter of one more row behind the others of its direction; a row of no direction adds none. -/
def add (p : Procedure) (row : ParameterRow) : Procedure :=
  if row.directionCode = 0 then p.withInputs (p.inputs ++ [row.toParameter])
  else if row.directionCode = 1 then p.withOutputs (p.outputs ++ [row.toParameter])
  else p

/-- Rows that are read one by one add the parameters of either code to one of the lists, in their order, and nothing else. -/
theorem foldl_add (p : Procedure) (rows : List ParameterRow) :
    rows.foldl add p =
      ⟨p.name, p.body, p.inputs ++ (rows.filter (·.directionCode = 0)).map ParameterRow.toParameter,
        p.outputs ++ (rows.filter (·.directionCode = 1)).map ParameterRow.toParameter⟩ := by
  induction rows generalizing p with
  | nil => simp
  | cons row rows ih =>
    rw [List.foldl_cons, ih, add]
    by_cases hinput : row.directionCode = 0
    · simp [hinput, withInputs]
    · by_cases houtput : row.directionCode = 1
      · simp [houtput, withOutputs]
      · simp [hinput, houtput]

end Procedure

namespace Catalog

/-- The procedure of a row with the parameters of the rows of either code. -/
theorem ProcedureRow.toProcedure_eq_mk (row : ProcedureRow) (rows : List ParameterRow) :
    row.toProcedure rows =
      ⟨Text.trimmed row.name, row.body, (rows.filter (·.directionCode = 0)).map ParameterRow.toParameter,
        (rows.filter (·.directionCode = 1)).map ParameterRow.toParameter⟩ := by
  rw [toProcedure, ParameterRow.select_eq_map_filter Direction.ofCode?_eq_input_iff,
    ParameterRow.select_eq_map_filter Direction.ofCode?_eq_output_iff]

/-- The procedure of a row gathers the parameters of its rows one by one. Its inputs are those of the rows of code 0 and its outputs
those of the rows of code 1, in their order; rows of other codes add nothing, and the body is that of the row. So rows that agree on
the rows of either code describe the same procedure, however they are mixed. -/
theorem ProcedureRow.toProcedure_parts_directions (row : ProcedureRow) (rows : List ParameterRow) :
    row.toProcedure rows = rows.foldl Procedure.add (.plain (Text.trimmed row.name) row.body) ∧
    (row.toProcedure rows).inputs = (rows.filter (·.directionCode = 0)).map ParameterRow.toParameter ∧
    (row.toProcedure rows).outputs = (rows.filter (·.directionCode = 1)).map ParameterRow.toParameter ∧
    (row.toProcedure rows).body = row.body ∧
    ∀ rows' : List ParameterRow, rows'.filter (·.directionCode = 0) = rows.filter (·.directionCode = 0) →
      rows'.filter (·.directionCode = 1) = rows.filter (·.directionCode = 1) → row.toProcedure rows' = row.toProcedure rows := by
  refine ⟨?_, by rw [toProcedure_eq_mk], by rw [toProcedure_eq_mk], rfl, fun rows' hinputs houtputs => ?_⟩
  · rw [toProcedure_eq_mk, Procedure.foldl_add]
    rfl
  · rw [toProcedure_eq_mk, toProcedure_eq_mk, hinputs, houtputs]

/-- Two inputs, an output and a row of neither direction, mixed in two ways. -/
theorem ProcedureRow.toProcedure_mixedRows :
    let input (name : String) : ParameterRow := ⟨name, 0, "D", ⟨8, 4, 0, none⟩⟩
    let output : ParameterRow := ⟨"R", 1, "D", ⟨8, 4, 0, none⟩⟩
    let other : ParameterRow := ⟨"X", 5, "D", ⟨8, 4, 0, none⟩⟩
    let rows := [input "A", output, other, input "B"]
    let rows' := [output, input "A", input "B"]
    rows'.filter (·.directionCode = 0) = rows.filter (·.directionCode = 0) ∧
    rows'.filter (·.directionCode = 1) = rows.filter (·.directionCode = 1) ∧
    (mk "P" "").toProcedure rows' = (mk "P" "").toProcedure rows := by
  intro input output other rows rows'
  have hinputs : rows'.filter (·.directionCode = 0) = rows.filter (·.directionCode = 0) := by decide
  have houtputs : rows'.filter (·.directionCode = 1) = rows.filter (·.directionCode = 1) := by decide
  exact ⟨hinputs, houtputs, ((mk "P" "").toProcedure_parts_directions rows).2.2.2.2 rows' hinputs houtputs⟩

end Catalog

end SchemaScript
