import SchemaScript.Ddl.Clause
import SchemaScript.Schema.Basic
import SchemaScript.Text.Lines

/-!
# Ddl.Render: the script that creates a schema

Domains, tables and procedures in this order, each section under a banner. The text depends on the schema alone, so that
scripts can be compared. A procedure's body holds semicolons; it is ended by a caret instead, between two directives that
change the terminator and change it back.
-/

namespace SchemaScript.Ddl

/-- The first line of every script. -/
def scriptBanner : String := "/* --- GENERATED METADATA SCRIPT --- */"

/-- The line above the domains. -/
def domainsBanner : String := "/* --- 1. DOMAINS --- */"

/-- The line above the tables. -/
def tablesBanner : String := "/* --- 2. TABLES --- */"

/-- The line above the procedures. -/
def proceduresBanner : String := "/* --- 3. PROCEDURES --- */"

/-- The directive that makes the caret the terminator. -/
def setCaret : String := "SET TERM ^ ;"

/-- The directive that makes the semicolon the terminator again. -/
def setSemicolon : String := "SET TERM ; ^"

/-- Clauses one after the other, absent ones left out. -/
def clauses (parts : List (Option String)) : String := String.join (parts.map (·.getD ""))

/-- The statement that creates a domain: default, NOT NULL and check in this order. -/
def domain (d : Domain) : String :=
  "CREATE DOMAIN " ++ d.name ++ " AS " ++ d.type ++
    clauses [defaultClause? d.default?, notNullClause? d.notNull, checkClause? d.check?] ++ ";"

/-- The line that defines a column. -/
def column (c : Column) : String :=
  "\t" ++ c.name ++ " " ++ c.type ++ clauses [defaultClause? c.default?, notNullClause? !c.nullable]

/-- The statement that creates a table, a column a line. -/
def table (t : Table) : String :=
  "CREATE TABLE " ++ t.name ++ " (\n" ++ String.intercalate ",\n" (t.columns.map column) ++ "\n);"

/-- Parameters in parentheses behind an opening word, a parameter a line; nothing when there are none. -/
def parameterList (opening : String) (ps : List Parameter) : String :=
  if ps.isEmpty then ""
  else opening ++ "(\n" ++ String.intercalate ",\n" (ps.map fun p => "\t" ++ p.name ++ " " ++ p.type) ++ "\n)"

/-- The statement that creates a procedure, between its two directives. -/
def procedure (p : Procedure) : String :=
  setCaret ++ "\nCREATE PROCEDURE " ++ p.name ++ parameterList " " p.inputs ++ parameterList "\nRETURNS " p.outputs ++
    "\nAS\n" ++ Text.trimmedEnd p.body ++ "\n" ++ (missingTerminator? p.body).getD "" ++ "\n" ++ setSemicolon ++ "\n"

/-- The section of the domains. -/
def domainsSection (ds : List Domain) : String := domainsBanner ++ "\n" ++ Text.unlines (ds.map domain)

/-- The section of the tables. -/
def tablesSection (ts : List Table) : String := "\n" ++ tablesBanner ++ "\n" ++ Text.unlines (ts.map table)

/-- The section of the procedures. -/
def proceduresSection (ps : List Procedure) : String :=
  "\n" ++ proceduresBanner ++ "\n" ++ Text.unlines (ps.map procedure)

/-- The script that creates all objects of a schema. -/
def schema (s : Schema) : String :=
  scriptBanner ++ "\n" ++ domainsSection s.domains ++ tablesSection s.tables ++ proceduresSection s.procedures

end SchemaScript.Ddl
