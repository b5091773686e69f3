import ReadGate.Environment

/-!
# Settings of a database

Where the database is, and which function executes query texts there.
-/

namespace ReadGate.Postgres

/-- The name of the backend. -/
def backendName : String := "postgres"

/-- The settings of a database.  Without a function, query texts run as they are. -/
structure Database where
  host : String
  port : ShortInt
  name : String
  user : String
  password : String
  connectTimeout : ShortInt
  rpcFunction : Option String
  deriving DecidableEq, Repr

namespace Database

/-- The port of a database, unless the settings say otherwise. -/
def usualPort : ShortInt := ⟨5432, by decide⟩

/-- How many seconds an attempt to connect may take, unless the settings say otherwise. -/
def usualTimeout : ShortInt := ⟨10, by decide⟩

/-- Reads the settings from variables. -/
def ofEnvironment (env : Environment) : Except Mishap Database := do
  let port ← env.intOr "DB_PORT" usualPort
  let connectTimeout ← env.intOr "DB_CONNECT_TIMEOUT" usualTimeout
  let function := env.textOr "DB_RPC_FUNCTION" "execute_sql"
  return ⟨env.textOr "DB_HOST" "localhost", port, env.textOr "DB_NAME" "postgres",
    env.textOr "DB_USER" "postgres", env.textOr "DB_PASSWORD" "postgres", connectTimeout,
    if function.isEmpty then none else some function⟩

/-- The settings as one text, which a connection is opened with. -/
def connectionString (d : Database) : String :=
  s!"host={d.host} port={d.port.value} dbname={d.name} user={d.user} password={d.password} " ++
    s!"connect_timeout={d.connectTimeout.value}"

end Database

end ReadGate.Postgres
