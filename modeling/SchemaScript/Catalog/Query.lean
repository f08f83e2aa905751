import SchemaScript.Catalog.Record

/-!
# Catalog.Query: the questions asked of the catalog

The catalog is asked for the domains, for the tables and the columns of each, and for the procedures and the parameters of each.
The values of a row come in the order in which the query names them.
-/

namespace SchemaScript.Catalog

/-- A question asked of the catalog. -/
inductive Query
  | domains
  | tables
  | columns (table : String)
  | procedures
  | parameters (procedure : String)
  deriving DecidableEq, Repr

namespace Query

/-- What a row of the answer holds. -/
abbrev Row : Query → Type
  | domains => DomainRecord
  | tables => String
  | columns _ => ColumnRecord
  | procedures => ProcedureRow
  | parameters _ => ParameterRecord

/-- The domains that users defined, by name. -/
def domainsText : String :=
  "\n" ++
  "SELECT\n" ++
  "    F.RDB$FIELD_NAME,\n" ++
  "    F.RDB$FIELD_TYPE,\n" ++
  "    F.RDB$FIELD_LENGTH,\n" ++
  "    F.RDB$FIELD_SCALE,\n" ++
  "    F.RDB$FIELD_SUB_TYPE,\n" ++
  "    F.RDB$NULL_FLAG,\n" ++
  "    F.RDB$DEFAULT_SOURCE,\n" ++
  "    F.RDB$VALIDATION_SOURCE\n" ++
  "FROM RDB$FIELDS F\n" ++
  "WHERE F.RDB$SYSTEM_FLAG = 0 AND F.RDB$FIELD_NAME NOT LIKE 'RDB$%'\n" ++
  "ORDER BY F.RDB$FIELD_NAME"

/-- The tables that users created, without views, by name. -/
def tablesText : String :=
  "\n" ++
  "SELECT RDB$RELATION_NAME\n" ++
  "FROM RDB$RELATIONS\n" ++
  "WHERE RDB$VIEW_BLR IS NULL AND RDB$SYSTEM_FLAG = 0\n" ++
  "ORDER BY RDB$RELATION_NAME"

/-- The columns of one table in their order; the parameter is the name of the table. -/
def columnsText : String :=
  "\n" ++
  "SELECT\n" ++
  "    RF.RDB$FIELD_NAME,\n" ++
  "    RF.RDB$FIELD_SOURCE,\n" ++
  "    F.RDB$FIELD_TYPE,\n" ++
  "    F.RDB$FIELD_LENGTH,\n" ++
  "    F.RDB$FIELD_SCALE,\n" ++
  "    F.RDB$FIELD_SUB_TYPE,\n" ++
  "    RF.RDB$NULL_FLAG,\n" ++
  "    RF.RDB$DEFAULT_SOURCE\n" ++
  "FROM RDB$RELATION_FIELDS RF\n" ++
  "JOIN RDB$FIELDS F ON RF.RDB$FIELD_SOURCE = F.RDB$FIELD_NAME\n" ++
  "WHERE RF.RDB$RELATION_NAME = ?\n" ++
  "ORDER BY RF.RDB$FIELD_POSITION"

/-- The procedures that come with their source, by name. -/
def proceduresText : String :=
  "\n" ++
  "SELECT RDB$PROCEDURE_NAME, RDB$PROCEDURE_SOURCE\n" ++
  "FROM RDB$PROCEDURES\n" ++
  "WHERE RDB$SYSTEM_FLAG = 0 AND RDB$PROCEDURE_SOURCE IS NOT NULL\n" ++
  "ORDER BY RDB$PROCEDURE_NAME"

/-- The parameters of one procedure, inputs first; the parameter is the name of the procedure. -/
def parametersText : String :=
  "\n" ++
  "SELECT\n" ++
  "    P.RDB$PARAMETER_NAME,\n" ++
  "    P.RDB$PARAMETER_TYPE,\n" ++
  "    P.RDB$FIELD_SOURCE,\n" ++
  "    F.RDB$FIELD_TYPE,\n" ++
  "    F.RDB$FIELD_LENGTH,\n" ++
  "    F.RDB$FIELD_SCALE,\n" ++
  "    F.RDB$FIELD_SUB_TYPE\n" ++
  "FROM RDB$PROCEDURE_PARAMETERS P\n" ++
  "LEFT JOIN RDB$FIELDS F ON P.RDB$FIELD_SOURCE = F.RDB$FIELD_NAME\n" ++
  "WHERE P.RDB$PROCEDURE_NAME = ?\n" ++
  "ORDER BY P.RDB$PARAMETER_TYPE, P.RDB$PARAMETER_NUMBER"

/-- The text of a query; a question mark stands for its parameter. -/
def text : Query → String
  | domains => domainsText
  | tables => tablesText
  | columns _ => columnsText
  | procedures => proceduresText
  | parameters _ => parametersText

/-- The parameter of a query. -/
def parameter? : Query → Option String
  | columns table => some table
  | parameters procedure => some procedure
  | _ => none

end Query

end SchemaScript.Catalog
