/-! Why a statement is refused or fails. -/

namespace EndpointGate.Sql

inductive Constraint
  | unique (columns : String)
  | notNull (column : String)
  | check (condition : String)
  | foreignKey
  deriving DecidableEq, Repr

def Constraint.message : Constraint → String
  | .unique columns => "UNIQUE constraint failed: " ++ columns
  | .notNull column => "NOT NULL constraint failed: " ++ column
  | .check condition => "CHECK constraint failed: " ++ condition
  | .foreignKey => "FOREIGN KEY constraint failed"

inductive Failure
  | unrecognizedToken (text : String)
  | syntaxError (near : String)
  | noSuchTable (name : String)
  | noSuchColumn (name : String)
  | noSuchFunction (name : String)
  | wrongArgumentCount (function : String)
  | misusedAggregate (function : String)
  | alreadyExists (name : String)
  | duplicateColumn (name : String)
  | wrongValueCount (table : String)
  | termOutOfRange
  | badParameter (name : String)
  | foreignKeyMismatch (child parent : String)
  | protectedTable (name : String)
  | noTable
  | violated (rule : Constraint)
  | datatypeMismatch
  | nestedTransaction
  | noTransaction
  | locked
  | notADatabase
  | noStatement
  | unexpectedType (column : Nat)
  | outputExists
  | cannotAttach (path : String)
  | cannotOpen
  | diskFailed
  deriving DecidableEq, Repr

namespace Failure

def message : Failure → String
  | .unrecognizedToken text => "unrecognized token: \"" ++ text ++ "\""
  | .syntaxError near => "near \"" ++ near ++ "\": syntax error"
  | .noSuchTable name => "no such table: " ++ name
  | .noSuchColumn name => "no such column: " ++ name
  | .noSuchFunction name => "no such function: " ++ name
  | .wrongArgumentCount function => "wrong number of arguments to function " ++ function ++ "()"
  | .misusedAggregate function => "misuse of aggregate: " ++ function ++ "()"
  | .alreadyExists name => name ++ " already exists"
  | .duplicateColumn name => "duplicate column name: " ++ name
  | .wrongValueCount table => "wrong number of values for table " ++ table
  | .termOutOfRange => "ORDER BY term out of range"
  | .badParameter name => "variable number out of range: " ++ name
  | .foreignKeyMismatch child parent =>
    "foreign key mismatch - \"" ++ child ++ "\" referencing \"" ++ parent ++ "\""
  | .protectedTable name => "table " ++ name ++ " may not be modified"
  | .noTable => "no tables specified"
  | .violated rule => rule.message
  | .datatypeMismatch => "datatype mismatch"
  | .nestedTransaction => "cannot start a transaction within a transaction"
  | .noTransaction => "no transaction is active"
  | .locked => "database is locked"
  | .notADatabase => "file is not a database"
  | .noStatement => "not a statement"
  | .unexpectedType column => "Invalid column type at index: " ++ toString column
  | .outputExists => "output file already exists"
  | .cannotAttach path => "unable to open database: " ++ path
  | .cannotOpen => "unable to open database file"
  | .diskFailed => "disk I/O error"

def isConstraint : Failure → Bool
  | .violated _ => true
  | _ => false

end Failure

end EndpointGate.Sql
