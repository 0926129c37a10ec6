import SiteWalk.Output.Text

/-!
# Help

What the program says about itself.
-/

namespace SiteWalk.Cli

def manual : List String :=
  ["A depth-limited recursive web crawler",
   "",
   "Usage: depthcrawl [OPTIONS] [CONFIG]",
   "",
   "Arguments:",
   "  [CONFIG]  Path to TOML crawl profile",
   "",
   "Options:",
   "      --seed <URL>        Seed URL to start crawling from",
   "      --links             Collect links instead of page content",
   "      --format <FORMAT>   Output format: text, json or markdown [default: text]",
   "  -o, --output <PATH>     Write the report to a file instead of stdout",
   "  -v, --verbose...        Increase logging verbosity (-v, -vv, -vvv)",
   "  -q, --quiet             Suppress non-error output",
   "      --dry-run           Validate the profile and show what would be crawled without crawling",
   "      --enqueue           Start a batched crawl and print its run id",
   "      --step [<N>]        Process queued batch steps (all of them, or at most N)",
   "      --collect <RUN_ID>  Print the report of a drained batch run and forget the run",
   "      --cancel <RUN_ID>   Cancel a batch run, keeping its partial report collectable",
   "      --state-db <PATH>   SQLite file holding batch runs [default: depthcrawl-batch.db]",
   "  -h, --help              Print help",
   "  -V, --version           Print version"]

def manualText : List Char := manual.flatMap Output.line

def versionText : List Char := Output.line "depthcrawl 1.0.0"

end SiteWalk.Cli
