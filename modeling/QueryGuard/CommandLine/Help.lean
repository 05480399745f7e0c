/-!
# `QueryGuard.CommandLine.Help`: how a command line is written
-/

set_option autoImplicit false

namespace QueryGuard.CommandLine

/-- The lines that show a whole command line. -/
def usageLines : List String :=
  ["usage: promguard-validate [-h] [--prometheus-url PROMETHEUS_URL]",
    "                          [--token TOKEN] [--insecure]",
    "                          [--tsdb-stats-limit TSDB_STATS_LIMIT]",
    "                          [--guardrails GUARDRAILS]",
    "                          [--guardrails.max-metric-cardinality MAX_METRIC_CARDINALITY]",
    "                          [--guardrails.max-label-cardinality MAX_LABEL_CARDINALITY]",
    "                          [--start START] [--end END] [--snapshot SNAPSHOT]",
    "                          [--timeout TIMEOUT] [--log-level LOG_LEVEL]",
    "                          query"]

/-- The lines that explain what can be given. -/
def helpLines : List String :=
  ["Check a PromQL query against the guardrails before running it.",
    "",
    "positional arguments:",
    "  query",
    "",
    "options:",
    "  -h, --help            show this help message and exit",
    "  --prometheus-url PROMETHEUS_URL",
    "  --token TOKEN",
    "  --insecure",
    "  --tsdb-stats-limit TSDB_STATS_LIMIT",
    "                        entries per statistic requested from the TSDB status",
    "                        API",
    "  --guardrails GUARDRAILS",
    "                        'all', 'none', or a comma-separated list of disallow-",
    "                        explicit-name-label, require-label-matcher, disallow-",
    "                        blanket-regex",
    "  --guardrails.max-metric-cardinality MAX_METRIC_CARDINALITY",
    "                        maximum series per metric (0 = disabled)",
    "  --guardrails.max-label-cardinality MAX_LABEL_CARDINALITY",
    "                        maximum label values for a blanket regex (0 = always",
    "                        reject blanket regex)",
    "  --start START         NOW, NOW-1h, RFC3339 or unix seconds",
    "  --end END             NOW, NOW-1h, RFC3339 or unix seconds",
    "  --snapshot SNAPSHOT   JSON file \x7b\"series\": \x7b...\x7d, \"labels\": \x7b...\x7d\x7d" ++
      " used",
    "                        instead of the backend",
    "  --timeout TIMEOUT",
    "  --log-level LOG_LEVEL"]

/-- What the program prints when it is asked for help. -/
def help : String := String.join ((usageLines ++ [""] ++ helpLines).map (· ++ "\n"))

end QueryGuard.CommandLine
