namespace Switchboard.CommandLine

def programName : String := "coord"

def versionText : String := programName ++ " 0.1.0"

def helpLines : List String :=
  ["coord - SQLite-backed coordination for local agent pipelines",
   "",
   "USAGE:",
   "    coord <command> <db> [args]",
   "",
   "MAILBOX:",
   "    send    <db> <target> [--from agent] [msg...]   body from stdin when msg is omitted",
   "    recv    <db> <name> [timeout_seconds]           prints body, or TIMEOUT (exit 1); 0 waits forever",
   "    check   <db> <name>                             count of pending messages",
   "    drain   <db> <name>                             bodies separated by ---",
   "",
   "REGISTRY:",
   "    register   <db> <name> [pid]",
   "    unregister <db> <name>",
   "    agents     <db> [--json]",
   "    cleanup    <db> [name]",
   "",
   "EVENTS:",
   "    log   <db> <kind> [tag] [body] [--agent a]",
   "    tail  <db> [kind] [--since id] [--limit n] [--json]",
   "    query <db> <kind> [--tag t] [--agent a] [--since id] [--limit n] [--json]",
   "    pipeline-state <db> [state] [--agent a]",
   "",
   "TASKS:",
   "    submit-task   <db> <submitted_by> <task_type> [--problem p] [--scope s]",
   "                  [--payload path] [--priority high|normal|low] [--depends-on id]",
   "    claim-task    <db> <dispatcher> <task_id>",
   "    complete-task <db> <task_id> [--output path]",
   "    fail-task     <db> <task_id> [--error msg]",
   "    route-task    <db> <task_id> <agent_file> <model>",
   "    list-tasks    <db> [--status s] [--type t] [--json]",
   "    next-task     <db> [--json]",
   "",
   "OTHER:",
   "    init <db>        create the store (safe to repeat)",
   "    -h, --help       show this help",
   "    -V, --version    show version",
   "",
   "ENVIRONMENT:",
   "    COORD_LOG                log filter (falls back to RUST_LOG, default warn)",
   "    COORD_BUSY_TIMEOUT_MS    SQLite busy timeout (default 5000)",
   "    COORD_POLL_INTERVAL_MS   recv poll interval (default 500)",
   "    COORD_LOCK_RETRIES       retries after busy timeout (default 5)",
   "    COORD_RETRY_BACKOFF_MS   first retry backoff (default 50)"]

def helpText : String :=
  String.join (helpLines.map (· ++ "\n"))

end Switchboard.CommandLine
