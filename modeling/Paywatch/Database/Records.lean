import Paywatch.Database.Tables
import Paywatch.Log

/-!
# What the log is told of the database

The connection is tested and the tables are made before anything else starts;
at the end the connections are given up.
-/

namespace Paywatch

namespace Database

def testRecord : Except Failure Unit → LogRecord
  | .ok () => ⟨.info, "✅ Database connection test successful", none⟩
  | .error failure =>
    ⟨.error, s!"❌ Database connection test failed: {failure.message}", none⟩

def creatingRecord : LogRecord :=
  ⟨.info,
    "🏗️ Creating database tables (if they don't exist): " ++ ", ".intercalate Tables.names, none⟩

def notCreatedRecord (failure : Failure) : LogRecord :=
  ⟨.error, s!"❌ Failed to create database tables: {failure.message}", none⟩

def disposedRecord : LogRecord :=
  ⟨.info, "✅ Database connections cleaned up", none⟩

end Database

end Paywatch
