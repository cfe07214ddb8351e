import Paywatch.Database.Package

/-!
# Kinds of databases

An address begins with a kind of database and may add a driver for it after a
plus sign; without one the kind has a driver of its own.  A driver is a module
that has to be installed.
-/

namespace Paywatch

/-- A driver: its kind of database, its name in an address, and its module. -/
structure DatabaseDriver where
  dialect : String
  name : Option String
  module : String
  deriving DecidableEq, Repr

namespace DatabaseDriver

/-- The kinds of databases, each with the drivers that an address can name for it. -/
def known : List DatabaseDriver :=
  [⟨"sqlite", none, "sqlite3"⟩, ⟨"sqlite", some "base", "sqlite3"⟩,
    ⟨"sqlite", some "pysqlite", "sqlite3"⟩, ⟨"sqlite", some "aiosqlite", "aiosqlite"⟩,
    ⟨"sqlite", some "pysqlcipher", "pysqlcipher3"⟩,
    ⟨"postgresql", none, "psycopg"⟩, ⟨"postgresql", some "base", "psycopg"⟩,
    ⟨"postgresql", some "psycopg", "psycopg"⟩, ⟨"postgresql", some "psycopg_async", "psycopg"⟩,
    ⟨"postgresql", some "psycopg2", "psycopg2"⟩,
    ⟨"postgresql", some "psycopg2cffi", "psycopg2cffi"⟩,
    ⟨"postgresql", some "asyncpg", "asyncpg"⟩, ⟨"postgresql", some "pg8000", "pg8000"⟩,
    ⟨"mysql", none, "MySQLdb"⟩, ⟨"mysql", some "base", "MySQLdb"⟩,
    ⟨"mysql", some "mysqldb", "MySQLdb"⟩, ⟨"mysql", some "pymysql", "pymysql"⟩,
    ⟨"mysql", some "aiomysql", "aiomysql"⟩, ⟨"mysql", some "asyncmy", "asyncmy"⟩,
    ⟨"mysql", some "cymysql", "cymysql"⟩, ⟨"mysql", some "pyodbc", "pyodbc"⟩,
    ⟨"mysql", some "mysqlconnector", "mysql"⟩, ⟨"mysql", some "mariadbconnector", "mariadb"⟩,
    ⟨"mariadb", none, "MySQLdb"⟩, ⟨"mariadb", some "base", "MySQLdb"⟩,
    ⟨"mariadb", some "mysqldb", "MySQLdb"⟩, ⟨"mariadb", some "pymysql", "pymysql"⟩,
    ⟨"mariadb", some "aiomysql", "aiomysql"⟩, ⟨"mariadb", some "asyncmy", "asyncmy"⟩,
    ⟨"mariadb", some "cymysql", "cymysql"⟩, ⟨"mariadb", some "pyodbc", "pyodbc"⟩,
    ⟨"mariadb", some "mysqlconnector", "mysql"⟩,
    ⟨"mariadb", some "mariadbconnector", "mariadb"⟩,
    ⟨"oracle", none, "oracledb"⟩, ⟨"oracle", some "base", "oracledb"⟩,
    ⟨"oracle", some "oracledb", "oracledb"⟩, ⟨"oracle", some "oracledb_async", "oracledb"⟩,
    ⟨"oracle", some "cx_oracle", "cx_Oracle"⟩,
    ⟨"mssql", none, "pyodbc"⟩, ⟨"mssql", some "base", "pyodbc"⟩,
    ⟨"mssql", some "pyodbc", "pyodbc"⟩, ⟨"mssql", some "aioodbc", "aioodbc"⟩,
    ⟨"mssql", some "pymssql", "pymssql"⟩, ⟨"mssql", some "mssqlpython", "mssql_python"⟩]

def installed : List String :=
  ["sqlite3", "psycopg2"]

def addressName (driver : DatabaseDriver) : List Char :=
  driver.dialect.toList ++
    match driver.name with
    | some name => '+' :: name.toList
    | none => []

/-- How a name in an address is looked up. -/
def pluginName (name : List Char) : String :=
  String.ofList (name.map fun c => if c = '+' then '.' else c)

/-- What a name in an address stands for that is no driver. -/
def other? (name : List Char) : Option Owner :=
  let kind := name.takeWhile (· ≠ '+')
  let driver := (name.dropWhile (· ≠ '+')).drop 1
  DatabasePackage.find? (String.ofList kind) (String.ofList driver)

/-- The kind of database under a name in an address, when a driver for it is installed. -/
def dialectOf (name : List Char) : Except Failure String :=
  if 1 < name.count '+' then .error .manyParts
  else match known.find? (·.addressName == name), other? name with
    | some driver, _ =>
      if installed.contains driver.module then .ok driver.dialect
      else .error (.noModule driver.module)
    | none, some owner => .error (.noMember owner DatabasePackage.driverMember)
    | none, none => .error (.noPlugin "dialects" (pluginName name))

end DatabaseDriver

end Paywatch
