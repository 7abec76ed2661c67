import TableQuery.Csv.Fault
import TableQuery.Sql.Fault

/-! Why a query has no result, and the message for each cause. -/

namespace TableQuery

inductive ParseError where
  | spelling (fault : Sql.LocatedFault)
  | selectExpected
  | fromExpected
  | emptyField
  | invalidField (text : String)
  | invalidArgument (text : String)
  | columnRequired (function text : String)
  | tableExpected (keyword : String)
  | keywordExpected (keyword : String)
  | joinEqualExpected
  | joinColumnExpected
  | conditionExpected
  | operatorMissing
  | operatorExpected (found : String)
  | valueMissing
  | groupColumnExpected
  | unexpected (found : String)
  deriving DecidableEq

def ParseError.message : ParseError → String
  | spelling fault => fault.message
  | selectExpected => "Invalid SELECT format"
  | fromExpected => "Invalid SELECT format: expected FROM"
  | emptyField => "Invalid SELECT format: empty field"
  | invalidField text => "Invalid field expression '" ++ text ++ "'"
  | invalidArgument text => "Invalid aggregate argument in '" ++ text ++ "'"
  | columnRequired function text =>
    function ++ " requires a column argument, found '" ++ text ++ "'"
  | tableExpected keyword => "expected table name after " ++ keyword
  | keywordExpected keyword => "expected " ++ keyword
  | joinEqualExpected => "Invalid JOIN condition: expected '='"
  | joinColumnExpected => "Invalid JOIN condition: expected table.column"
  | conditionExpected => "Invalid WHERE clause format"
  | operatorMissing => "Invalid WHERE clause format: missing operator"
  | operatorExpected found =>
    "Invalid WHERE clause format: expected an operator, found '" ++ found ++ "'"
  | valueMissing => "Invalid WHERE clause format: missing value"
  | groupColumnExpected => "Invalid GROUP BY format"
  | unexpected found => "unexpected '" ++ found ++ "'"

inductive UnsupportedFeature where
  | operator (spelling : String)
  | joinKind (name : String)
  deriving DecidableEq

def UnsupportedFeature.message : UnsupportedFeature → String
  | operator spelling => "operator '" ++ spelling ++ "'"
  | joinKind name => "JOIN type: " ++ name

inductive SourceError where
  | notFound (table : String)
  | unreadable (table : String) (fault : Csv.Fault)
  deriving DecidableEq

def SourceError.message : SourceError → String
  | notFound table => "table not found: " ++ table
  | unreadable table fault => "failed to read table '" ++ table ++ "': " ++ fault.message

inductive QueryError where
  | parse (error : ParseError)
  | unsupported (feature : UnsupportedFeature)
  | field (name : String)
  | source (error : SourceError)
  deriving DecidableEq

def QueryError.message : QueryError → String
  | parse error => "parse error: " ++ error.message
  | unsupported feature => "unsupported feature: " ++ feature.message
  | field name => "invalid field: " ++ name
  | source error => error.message

end TableQuery
