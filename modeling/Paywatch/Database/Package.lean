import Paywatch.Failure

/-!
# What kinds of databases hold

The access to a kind of database is a package.  Beside its drivers it holds
other modules, types for columns and functions, and every package has a few
members of its own.  None of these can be used as a driver.
-/

namespace Paywatch

structure DatabasePackage where
  name : String
  /-- The kind of the driver that is used when none is named. -/
  driverType : String
  /-- Modules, with the names of their files. -/
  modules : List (String × String)
  types : List String
  /-- Types under a second name. -/
  secondNames : List (String × String) := []
  /-- Types that list their values. -/
  enumerations : List String := []
  functions : List String
  deriving Repr

namespace DatabasePackage

def plain (names : List String) : List (String × String) :=
  names.map fun name => (name, name)

def root : String :=
  "sqlalchemy.dialects"

def modulePath (package file : String) : String :=
  s!"{root}.{package}.{file}"

/-! ## Packages -/

def sqlite : DatabasePackage where
  name := "sqlite"
  driverType := "SQLiteDialect_pysqlite"
  modules := plain ["dml", "json"]
  types := ["BLOB", "BOOLEAN", "CHAR", "DATE", "DATETIME", "DECIMAL", "FLOAT", "INTEGER", "JSON",
    "JSONB", "NUMERIC", "REAL", "SMALLINT", "TEXT", "TIME", "TIMESTAMP", "VARCHAR", "Insert"]
  functions := ["insert"]

def postgresql : DatabasePackage where
  name := "postgresql"
  driverType := "PGDialect_psycopg"
  modules := ("arraylib", "array") :: plain ["_psycopg_common", "bitstring", "dml", "ext", "json",
    "named_types", "operators", "pg_catalog", "ranges", "types"]
  types := ["ARRAY", "array", "BIGINT", "BOOLEAN", "CHAR", "DATE", "DOMAIN", "DOUBLE_PRECISION",
    "FLOAT", "INTEGER", "NUMERIC", "REAL", "SMALLINT", "TEXT", "UUID", "VARCHAR", "BitString",
    "Insert", "aggregate_order_by", "ExcludeConstraint", "phraseto_tsquery", "plainto_tsquery",
    "to_tsquery", "to_tsvector", "ts_headline", "websearch_to_tsquery", "HSTORE", "hstore",
    "JSON", "JSONB", "JSONPATH", "CreateDomainType", "CreateEnumType", "DropDomainType",
    "DropEnumType", "ENUM", "NamedType", "AbstractMultiRange", "AbstractRange",
    "AbstractSingleRange", "DATEMULTIRANGE", "DATERANGE", "INT4MULTIRANGE", "INT4RANGE",
    "INT8MULTIRANGE", "INT8RANGE", "MultiRange", "NUMMULTIRANGE", "NUMRANGE", "Range",
    "TSMULTIRANGE", "TSRANGE", "TSTZMULTIRANGE", "TSTZRANGE", "BIT", "BYTEA", "CIDR", "CITEXT",
    "INET", "INTERVAL", "MACADDR", "MACADDR8", "MONEY", "OID", "REGCLASS", "REGCONFIG", "TIME",
    "TIMESTAMP", "TSQUERY", "TSVECTOR"]
  functions := ["insert", "All", "Any", "array_agg", "distinct_on"]

/-- The package that serves two kinds of databases. -/
def mysql : DatabasePackage where
  name := "mysql"
  driverType := "MySQLDialect_mysqldb"
  modules := plain ["_mariadb_shim", "dml", "enumerated", "expression", "json", "mariadb",
    "reflection", "reserved_words", "types"]
  types := ["BIGINT", "BINARY", "BIT", "BLOB", "BOOLEAN", "CHAR", "DATE", "DATETIME", "DECIMAL",
    "DOUBLE", "ENUM", "FLOAT", "INTEGER", "JSON", "LONGBLOB", "LONGTEXT", "MEDIUMBLOB",
    "MEDIUMINT", "MEDIUMTEXT", "NCHAR", "NUMERIC", "NVARCHAR", "REAL", "SET", "SMALLINT", "TEXT",
    "TIME", "TIMESTAMP", "TINYBLOB", "TINYINT", "TINYTEXT", "VARBINARY", "VARCHAR", "YEAR",
    "Insert", "match", "INET4", "INET6"]
  functions := ["insert", "limit"]

def oracle : DatabasePackage where
  name := "oracle"
  driverType := "OracleDialect_oracledb"
  modules := plain ["dictionary", "json", "types", "vector"]
  types := ["BFILE", "BINARY_DOUBLE", "BINARY_FLOAT", "BLOB", "BOOLEAN", "CHAR", "CLOB", "DATE",
    "DOUBLE_PRECISION", "FLOAT", "INTERVAL", "JSON", "LONG", "NCHAR", "NCLOB", "NUMBER",
    "NVARCHAR", "RAW", "REAL", "ROWID", "TIMESTAMP", "VARCHAR", "VARCHAR2", "VECTOR",
    "VectorIndexConfig", "SparseVector"]
  secondNames := [("NVARCHAR2", "NVARCHAR")]
  enumerations := ["VectorIndexType", "VectorDistanceType", "VectorStorageFormat",
    "VectorStorageType"]
  functions := []

def mssql : DatabasePackage where
  name := "mssql"
  driverType := "MSDialect_pyodbc"
  modules := plain ["information_schema", "json"]
  types := ["BIGINT", "BINARY", "BIT", "CHAR", "DATE", "DATETIME", "DATETIME2", "DATETIMEOFFSET",
    "DECIMAL", "DOUBLE_PRECISION", "FLOAT", "IMAGE", "INTEGER", "JSON", "MONEY", "NCHAR", "NTEXT",
    "NUMERIC", "NVARCHAR", "REAL", "ROWVERSION", "SMALLDATETIME", "SMALLINT", "SMALLMONEY",
    "SQL_VARIANT", "TEXT", "TIME", "TIMESTAMP", "TINYINT", "UNIQUEIDENTIFIER", "VARBINARY",
    "VARCHAR", "XML"]
  functions := ["try_cast"]

def all : List DatabasePackage :=
  [sqlite, postgresql, mysql, oracle, mssql]

/-! ## Members -/

def ownMembers : List (String × Owner) :=
  Owner.common ++
  Owner.values "str" ["__package__", "__file__", "__cached__"] ++
  Owner.values "dict" ["__builtins__"] ++
  Owner.values "list" ["__path__"] ++
  Owner.values "tuple" ["__all__"] ++
  Owner.values "ModuleSpec" ["__spec__"] ++
  Owner.values "SourceFileLoader" ["__loader__"]

def driverMember : String :=
  "dialect"

def member? (package : DatabasePackage) (name : String) : Option Owner :=
  if name = driverMember then some (.type package.driverType)
  else if name = "ModuleType" && [postgresql.name, oracle.name].contains package.name then
    some (.type "module")
  else match package.modules.lookup name with
    | some file => some (.module (modulePath package.name file))
    | none =>
      let name := (package.secondNames.lookup name).getD name
      if package.types.contains name then some (.type name)
      else if package.enumerations.contains name then some .enumeration
      else if package.functions.contains name then some (.value Owner.functionType)
      else ownMembers.lookup name

/-- The kind of database that borrows the modules of a package, and nothing else of it. -/
def borrower : String × DatabasePackage :=
  ("mariadb", { mysql with modules := mysql.modules ++ plain ["provision"] })

/-- What a name stands for with a kind of database, unless it is a driver. -/
def find? (kind name : String) : Option Owner :=
  if kind = borrower.1 then
    (borrower.2.modules.lookup name).map fun file => .module (modulePath borrower.2.name file)
  else (all.find? (·.name = kind)).bind (·.member? name)

end DatabasePackage

end Paywatch
