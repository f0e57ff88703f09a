import WalletTrust.Failure

/-!
# Dialects of databases

The scheme of an address names a dialect and possibly a driver. Of the dialects that are known only
one has a driver here. A name that belongs to another part of a dialect than a driver is told apart
from one that belongs to nothing.
-/

namespace WalletTrust.Store

structure Dialect where
  name : String
  /-- Drivers that can be opened. -/
  present : List String := []
  /-- Drivers that are known but not here. -/
  lacking : List String
  /-- The class of the driver that stands for the dialect, if that is a part. -/
  standard? : Option String := none
  /-- The package of the parts that are modules, and those that have another name there. -/
  package : String := name
  modules : List String := []
  renamed : List (String × String) := []
  classes : List String := []
  functions : List String := []
  /-- Whether the parts that every package has are parts as well. -/
  isPackage : Bool := true

namespace Dialect

def sqlite : Dialect :=
  { name := "sqlite"
    present := ["base", "pysqlite"]
    lacking := ["aiosqlite", "pysqlcipher"]
    standard? := some "SQLiteDialect_pysqlite"
    modules := ["dml", "json"]
    classes :=
      ["BLOB", "BOOLEAN", "CHAR", "DATE", "DATETIME", "DECIMAL", "FLOAT", "INTEGER", "JSON",
        "JSONB", "NUMERIC", "REAL", "SMALLINT", "TEXT", "TIME", "TIMESTAMP", "VARCHAR", "Insert"]
    functions := ["insert"] }

def mysqlDrivers : List String :=
  ["base", "mysqldb", "pymysql", "aiomysql", "asyncmy", "cymysql", "mariadbconnector",
    "mysqlconnector", "pyodbc"]

def mysqlModules : List String :=
  ["types", "mariadb", "dml", "json", "enumerated", "expression", "reflection", "reserved_words",
    "_mariadb_shim"]

def mysql : Dialect :=
  { name := "mysql"
    lacking := mysqlDrivers
    standard? := some "MySQLDialect_mysqldb"
    modules := mysqlModules
    classes :=
      ["BIGINT", "BINARY", "BIT", "BLOB", "BOOLEAN", "CHAR", "DATE", "DATETIME", "DECIMAL",
        "DOUBLE", "ENUM", "FLOAT", "INTEGER", "JSON", "LONGBLOB", "LONGTEXT", "MEDIUMBLOB",
        "MEDIUMINT", "MEDIUMTEXT", "NCHAR", "NUMERIC", "NVARCHAR", "REAL", "SET", "SMALLINT",
        "TEXT", "TIME", "TIMESTAMP", "TINYBLOB", "TINYINT", "TINYTEXT", "VARBINARY", "VARCHAR",
        "YEAR", "INET4", "INET6", "Insert", "match"]
    functions := ["insert", "limit"] }

/-- The dialect that has only the modules of another one for its parts. -/
def mariadb : Dialect :=
  { name := "mariadb"
    lacking := mysqlDrivers
    package := "mysql"
    modules := "provision" :: mysqlModules
    isPackage := false }

def postgresql : Dialect :=
  { name := "postgresql"
    lacking :=
      ["base", "asyncpg", "pg8000", "psycopg", "psycopg2", "psycopg2cffi", "psycopg_async"]
    standard? := some "PGDialect_psycopg"
    modules :=
      ["dml", "ext", "json", "named_types", "operators", "pg_catalog", "ranges", "types",
        "bitstring", "_psycopg_common"]
    renamed := [("arraylib", "array")]
    classes :=
      ["ARRAY", "array", "BIGINT", "BOOLEAN", "CHAR", "DATE", "DOMAIN", "DOUBLE_PRECISION",
        "FLOAT", "INTEGER", "NUMERIC", "REAL", "SMALLINT", "TEXT", "UUID", "VARCHAR", "BitString",
        "Insert", "aggregate_order_by", "ExcludeConstraint", "phraseto_tsquery",
        "plainto_tsquery", "to_tsquery", "to_tsvector", "ts_headline", "websearch_to_tsquery",
        "HSTORE", "hstore", "JSON", "JSONB", "JSONPATH", "CreateDomainType", "CreateEnumType",
        "DropDomainType", "DropEnumType", "ENUM", "NamedType", "AbstractMultiRange",
        "AbstractRange", "AbstractSingleRange", "DATEMULTIRANGE", "DATERANGE", "INT4MULTIRANGE",
        "INT4RANGE", "INT8MULTIRANGE", "INT8RANGE", "MultiRange", "NUMMULTIRANGE", "NUMRANGE",
        "Range", "TSMULTIRANGE", "TSRANGE", "TSTZMULTIRANGE", "TSTZRANGE", "BIT", "BYTEA", "CIDR",
        "CITEXT", "INET", "INTERVAL", "MACADDR", "MACADDR8", "MONEY", "OID", "REGCLASS",
        "REGCONFIG", "TIME", "TIMESTAMP", "TSQUERY", "TSVECTOR"]
    functions := ["insert", "array_agg", "distinct_on", "Any", "All"] }

def oracle : Dialect :=
  { name := "oracle"
    lacking := ["base", "cx_oracle", "oracledb", "oracledb_async"]
    standard? := some "OracleDialect_oracledb"
    modules := ["dictionary", "types", "vector"]
    classes :=
      ["BFILE", "BINARY_DOUBLE", "BINARY_FLOAT", "BLOB", "BOOLEAN", "CHAR", "CLOB", "DATE",
        "DOUBLE_PRECISION", "FLOAT", "INTERVAL", "LONG", "NCHAR", "NCLOB", "NUMBER", "NVARCHAR",
        "NVARCHAR2", "RAW", "REAL", "ROWID", "TIMESTAMP", "VARCHAR", "VARCHAR2", "VECTOR",
        "SparseVector", "VectorIndexConfig"] }

def mssql : Dialect :=
  { name := "mssql"
    lacking := ["base", "aioodbc", "mssqlpython", "pymssql", "pyodbc"]
    standard? := some "MSDialect_pyodbc"
    modules := ["information_schema", "json"]
    classes :=
      ["BIGINT", "BINARY", "BIT", "CHAR", "DATE", "DATETIME", "DATETIME2", "DATETIMEOFFSET",
        "DECIMAL", "DOUBLE_PRECISION", "FLOAT", "IMAGE", "INTEGER", "JSON", "MONEY", "NCHAR",
        "NTEXT", "NUMERIC", "NVARCHAR", "REAL", "ROWVERSION", "SMALLDATETIME", "SMALLINT",
        "SMALLMONEY", "SQL_VARIANT", "TEXT", "TIME", "TIMESTAMP", "TINYINT", "UNIQUEIDENTIFIER",
        "VARBINARY", "VARCHAR", "XML"]
    functions := ["try_cast"] }

def all : List Dialect := [sqlite, mysql, mariadb, postgresql, oracle, mssql]

/-- The parts that every package has, by their kinds. -/
def packageParts : List (String × List String) :=
  [
    ("str", ["__name__", "__file__", "__package__", "__cached__"]),
    ("NoneType", ["__doc__"]),
    ("tuple", ["__all__"]),
    ("list", ["__path__"]),
    ("dict", ["__annotations__", "__builtins__", "__dict__"]),
    ("ModuleSpec", ["__spec__"]),
    ("SourceFileLoader", ["__loader__"]),
    ("method-wrapper", ["__delattr__", "__eq__", "__ge__", "__getattribute__", "__gt__", "__hash__",
      "__init__", "__le__", "__lt__", "__ne__", "__repr__", "__setattr__", "__str__"]),
    ("builtin_function_or_method", ["__dir__", "__format__", "__getstate__", "__init_subclass__",
      "__new__", "__reduce__", "__reduce_ex__", "__sizeof__", "__subclasshook__"])]

def packageClasses (d : Dialect) : List String :=
  if d.name ∈ ["postgresql", "oracle"] then ["__class__", "ModuleType"] else ["__class__"]

def objectOf (kind : String) : String := "'" ++ kind ++ "' object"

def classOf (name : String) : String := "type object '" ++ name ++ "'"

def moduleOf (d : Dialect) (name : String) : String :=
  "module 'sqlalchemy.dialects." ++ d.package ++ "." ++ name ++ "'"

/-- What messages call a part that every package has. -/
def packagePart? (d : Dialect) (name : String) : Option String :=
  if name ∈ d.packageClasses then some (classOf "module")
  else (packageParts.find? fun (_, names) => names.contains name).map fun (kind, _) => objectOf kind

/-- What messages call a part of a dialect that is no driver. -/
def part? (d : Dialect) (name : String) : Option String :=
  if name ∈ d.modules then some (d.moduleOf name)
  else if name ∈ d.classes then some (classOf name)
  else if name ∈ d.functions then some (objectOf "function")
  else match d.renamed.find? (·.1 == name) with
    | some (_, other) => some (d.moduleOf other)
    | none =>
      if name = "dialect" then d.standard?.map classOf
      else if d.isPackage then d.packagePart? name
      else none

def checkDriver (d : Dialect) (driver : String) : Except Failure Unit :=
  if driver ∈ d.present then .ok ()
  else if driver ∈ d.lacking then .error (.database .noDriver)
  else match d.part? driver with
    | some part => .error (.noDialect part)
    | none => .error (.database .unknownKind)

def checkNamed (name driver : String) : Except Failure Unit :=
  match all.find? (·.name == name) with
  | some d => d.checkDriver driver
  | none => .error (.database .unknownKind)

/-- Goes through only if a scheme names a dialect that can be opened. -/
def check (scheme : String) : Except Failure Unit :=
  match (scheme.toList.splitOn '+').map String.ofList with
  | [dialect] => checkNamed dialect "base"
  | [dialect, driver] => checkNamed dialect driver
  | _ => .error .manyDrivers

end Dialect
end WalletTrust.Store
