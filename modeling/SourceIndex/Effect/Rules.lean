import SourceIndex.Effect.Pattern
import SourceIndex.Order
import SourceIndex.Text.Basic

/-!
# Effects of calls

A rule tags a unit with an effect if one of the unit's calls matches one of the rule's patterns and,
for a gated rule, one of the file's imports is among the modules that the rule asks for.
-/

namespace SourceIndex.Effect

/-- A kind of side effect. -/
inductive Category where
  | database
  | network
  | filesystem
  | process
  | logging
  | environment
  | time
  | random
  deriving DecidableEq, Repr

/-- The name of an effect in records. -/
def Category.name : Category → String
  | database => "database"
  | network => "network"
  | filesystem => "filesystem"
  | process => "process"
  | logging => "logging"
  | environment => "environment"
  | time => "time"
  | random => "random"

/-- Calls that have an effect. -/
structure Rule where
  category : Category
  /-- The modules of which one has to be imported; none are asked for if the list is empty. -/
  modules : List String := []
  patterns : List Pattern

/-- A call that is one of some names. -/
def exactly (names : List String) : Pattern := ⟨[.oneOf names], .nothing, true, false⟩

/-- A call that starts with one of some texts. -/
def startingWith (texts : List String) : Pattern := ⟨[.oneOf texts], .anything, true, false⟩

/-- A call made of pieces from start to end. -/
def whole (pieces : List Piece) : Pattern := ⟨pieces, .nothing, true, false⟩

/-- A call that ends in pieces. -/
def ending (pieces : List Piece) : Pattern := ⟨pieces, .nothing, false, false⟩

/-- The same pattern without regard to case. -/
def anyCase (pattern : Pattern) : Pattern := { pattern with ignoreCase := true }

/-- Statements on connections, object mappers and document collections. -/
def databaseCalls : Rule where
  category := .database
  patterns :=
    let handles := ["db", "conn", "connection", "cursor", "pool", "session", "tx", "transaction"]
    [anyCase (whole [.oneOf handles, .oneOf
        [".query", ".execute", ".exec", ".executemany", ".prepare", ".commit", ".rollback"]]),
     anyCase (whole [.oneOf handles, .oneOf [".fetch"], .anyWord]),
     startingWith ["prisma.", "knex.", "sequelize.", "mongoose."],
     anyCase (ending [.oneOf
        [".find_one", ".findone", ".findmany", ".insert_one", ".insertone", ".insertmany",
         ".update_one", ".updateone", ".delete_one", ".deleteone", ".aggregate"]]),
     whole [.oneOf ["sqlx::query"], .anyWord]]

/-- Statements in files that import a database module. -/
def databaseImports : Rule where
  category := .database
  modules :=
    ["sqlite3", "psycopg", "sqlalchemy", "pymysql", "database/sql", "java.sql", "rusqlite", "sqlx",
     "diesel", "mysql", "mongodb", "pg"]
  patterns :=
    [anyCase (exactly
        ["query", "execute", "exec", "commit", "rollback", "cursor", "connect"]),
     anyCase (ending [.oneOf
        [".query", ".execute", ".exec", ".commit", ".rollback", ".cursor", ".connect"]]),
     anyCase (whole [.oneOf ["prepare"], .anyWord]),
     anyCase (ending [.oneOf [".prepare"], .anyWord])]

/-- Requests, sockets and listeners. -/
def networkCalls : Rule where
  category := .network
  patterns :=
    [exactly ["fetch", "axios"],
     ⟨[.oneOf ["axios", "requests", "httpx", "aiohttp", "urllib.request", "http", "https",
        "reqwest"], .oneOf [".", ":"]], .anything, true, false⟩,
     whole [.oneOf ["net.Dial", "net.Listen"], .anyWord],
     whole [.oneOf ["http.Get", "http.Post", "http.Head", "http.NewRequest"], .anyWord],
     ⟨[.oneOf ["websocket", "socket"]], .wordEnd, true, true⟩,
     startingWith ["HttpClient."]]

/-- Methods named like requests in files that import a network module. -/
def networkImports : Rule where
  category := .network
  modules := ["requests", "axios", "httpx", "reqwest", "net/http", "java.net", "node-fetch"]
  patterns :=
    [ending [.oneOf [".get", ".post", ".put", ".patch", ".delete", ".send", ".request"]]]

/-- Files, directories and paths. -/
def filesystemCalls : Rule where
  category := .filesystem
  patterns :=
    [exactly ["open", "fopen", "fread", "fwrite", "fclose", "remove", "unlink", "mkdir", "rmdir"],
     startingWith ["fs.", "fsPromises.", "shutil.", "ioutil.", "pathlib.", "Files."],
     ⟨[.optional ["std::"], .oneOf ["fs::"]], .anything, true, false⟩,
     exactly ["File::open", "File::create"],
     whole [.oneOf ["os."], .oneOf
        ["Open", "OpenFile", "Create", "ReadFile", "WriteFile", "Remove", "RemoveAll", "Mkdir",
         "MkdirAll", "remove", "unlink", "mkdir", "makedirs", "listdir", "rename"]],
     startingWith ["os.path."],
     anyCase (exactly
        ["readFile", "writeFile", "readFileSync", "writeFileSync", "appendFile",
         "appendFileSync"])]

/-- Other programs and the end of this one. -/
def processCalls : Rule where
  category := .process
  patterns :=
    [startingWith ["subprocess.", "child_process."],
     exactly ["exec", "execSync", "execFile", "spawn", "spawnSync", "system", "popen", "fork"],
     exactly ["os.system", "os.popen", "os.kill", "os._exit", "os.Exit"],
     whole [.oneOf ["os.exec", "os.spawn"], .anyWord],
     exactly ["exec.Command", "exec.CommandContext"],
     whole [.optional ["std::"], .oneOf ["process::exit", "process::abort"]],
     exactly ["Command::new"],
     exactly ["Runtime.getRuntime.exec"],
     exactly ["process.exit"]]

/-- Log lines and console output. -/
def loggingCalls : Rule where
  category := .logging
  patterns :=
    [whole [.oneOf ["console."], .oneOf ["log", "warn", "error", "info", "debug", "trace"]],
     ⟨[.oneOf ["log", "logger", "logging", "tracing", "slog"], .oneOf [".", ":"]], .anything, true,
       false⟩,
     exactly ["print", "printf", "fprintf", "puts", "perror"],
     exactly ["println!", "eprintln!", "print!", "eprint!", "dbg!"],
     whole [.optional ["tracing::", "log::"],
       .oneOf ["info!", "warn!", "error!", "debug!", "trace!"]],
     exactly ["fmt.Print", "fmt.Println", "fmt.Printf"],
     whole [.oneOf ["fmt.Fprint"], .anyWord],
     whole [.oneOf ["System.out.print", "System.err.print"], .anyWord],
     anyCase (startingWith ["this.log.", "this.logger.", "self.log.", "self.logger."])]

/-- Environment variables and properties. -/
def environmentCalls : Rule where
  category := .environment
  patterns :=
    [whole [.oneOf ["os."], .oneOf
        ["getenv", "putenv", "Getenv", "LookupEnv", "Setenv", "Unsetenv", "environ.get"]],
     whole [.optional ["std::"], .oneOf
        ["env::var", "env::var_os", "env::vars", "env::set_var", "env::remove_var"]],
     startingWith ["process.env."],
     exactly ["getenv", "setenv"],
     exactly ["System.getenv", "System.getProperty"]]

/-- Clocks, delays and timers. -/
def timeCalls : Rule where
  category := .time
  patterns :=
    [exactly ["Date.now", "performance.now", "setTimeout", "setInterval", "sleep", "usleep"],
     whole [.oneOf ["time."], .oneOf
        ["sleep", "time", "monotonic", "Now", "Sleep", "Since", "After", "Tick"]],
     whole [.oneOf ["datetime.", "datetime.datetime."], .oneOf ["now", "utcnow", "today"]],
     exactly ["Instant::now", "SystemTime::now", "Utc::now", "Local::now"],
     whole [.optional ["std::"], .oneOf ["thread::sleep"]],
     exactly ["System.currentTimeMillis", "System.nanoTime"]]

/-- Random numbers and identifiers. -/
def randomCalls : Rule where
  category := .random
  patterns :=
    [exactly ["Math.random"],
     whole [.oneOf ["random."], .word],
     whole [.oneOf ["rand"], .pathWords],
     whole [.oneOf ["rand."], .word],
     exactly ["thread_rng", "srand", "uuid.uuid4", "crypto.randomUUID", "crypto.randomBytes"]]

/-- All rules. -/
def rules : List Rule :=
  [databaseCalls, databaseImports, networkCalls, networkImports, filesystemCalls, processCalls,
   loggingCalls, environmentCalls, timeCalls, randomCalls]

/-- The characters that divide an import into segments. -/
def isSegmentBreak (c : Char) : Bool :=
  c == '/' || c == '.' || c == ':' || c == '@' || c == '-'

/-- Whether an import refers to a module: one of its segments is the module's name or, for a name
that has segments itself, the import contains the name. -/
def importMatches (imported wanted : String) : Bool :=
  imported == wanted
    || (Text.pieces isSegmentBreak imported.toList).contains wanted.toList
    || (wanted.toList.any (fun c => c == '/' || c == '.' || c == '-')
        && Text.hasInfix wanted.toList imported.toList)

/-- Whether a rule applies to a unit with some calls in a file with some imports. -/
def Rule.applies (rule : Rule) (calls imports : List String) : Bool :=
  (rule.modules.isEmpty
      || imports.any fun imported => rule.modules.any fun wanted => importMatches imported wanted)
    && calls.any fun call => rule.patterns.any fun pattern => pattern.matches call

/-- The names of the effects of a unit, in byte order and each one once. -/
def classify (calls imports : List String) : List String :=
  Order.distinctTexts
    ((rules.filter fun rule => rule.applies calls imports).map fun rule => rule.category.name)

end SourceIndex.Effect
