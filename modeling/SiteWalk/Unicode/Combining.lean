import SiteWalk.Unicode.Runs

/-!
# Combining classes

The canonical combining class orders the marks after a letter.
-/

namespace SiteWalk.Unicode

/-- The property `Canonical_Combining_Class`. -/
def combiningTable : List String := [
  "0.768 230.21 232 220.4 232 216 220.5 202.2 220.4 202.2 220.11 1.5 220.4 230.8 240 230 220.3",
  "230.3 220.2 0 230.3 220.4 230 232 220.2 230 233 234.2 233 234.2 233 230.13 0.275 230.5 0.265",
  "220 230.4 220 230.3 222 220 230.6 220.6 230.2 220 230.2 222 228 230 10 11 12 13 14 15 16 17 18",
  "19.2 20 21 22 0 23 0 24 25 0 230 220 0 18 0.72 230.8 30 31 32 0.48 27 28 29 30 31 32 33 34",
  "230.2 220.2 230.5 220 230.2 220 0.16 35 0.101 230.7 0.2 230.4 220 230 0.2 230.2 0 220 230.2",
  "220 0.35 36 0.30 230 220 230.2 220 230.2 220.3 230 220.2 230 220 230.3 220 230 220 230 220 230",
  "220 230.2 0.160 230.7 220 230 0.9 220 0.24 230.4 0 230.9 0 230.3 0 230.5 0.43 220.3 0.60 230",
  "220.3 230.4 0.42 230.5 220.5 230.14 0 220 230.2 220 230.2 220 230.3 220.3 27 28 29 230.3 220",
  "230.2 220.2 230.5 0.60 7 0.16 9 0.3 230 220 230.2 0.103 7 0.16 9 0.48 230 0.61 7 0.16 9 0.110",
  "7 0.16 9 0.110 7 0.16 9 0.127 9 0.110 7 0.16 9 0.7 84 91 0.101 7 0.16 9 0.109 9.2 0.16 9 0.124",
  "9 0.109 103.2 9 0.13 107.4 0.108 118.2 9 0.13 122.4 0.76 220.2 0.27 220 0 220 0 216 0.55 129",
  "130 0 132 0.5 130.4 0.2 130 0 230.2 9 0 230.2 0.62 220 0.112 7 0 9.2 0.82 220 0.719 230.3",
  "0.948 9.2 0.30 9 0.157 9 0.10 230 0.203 228 0.143 222 230 220 0.219 230 220 0.71 9 0.20 230.8",
  "0.2 220 0.48 230.5 220.6 230.2 220 0 220.2 230.2 220.2 230.5 220 230.4 0.101 7 0.15 9 0.38 230",
  "220 230.7 0.54 9.2 0.58 7 0.11 9.2 0.67 7 0.152 230.3 0 1 220.5 230.2 220.4 230 0 1.7 0.4 220",
  "0.6 230 0.3 230.2 0.198 230.2 220 230.7 220 230.2 234 214 220 202 230.37 232 228.2 220 218 230",
  "233 220 230 220 0.720 230.2 1.2 230.4 1.3 230.2 0.4 230 0.3 1.2 230 220 230 1.2 220.4 230",
  "0.3070 230.3 0.141 9 0.96 230.32 0.554 218 228 232 222 224.2 0.105 8.2 0.30164 230 0.4 230.10",
  "0.32 230.2 0.80 230.2 0.276 9 0.37 9 0.151 9 0.27 230.18 0.57 220.3 0.37 9 0.95 7 0.12 9 0.239",
  "230 0 230.2 220 0.2 230.2 0.5 230.2 0 230 0.52 9 0.246 9 0.20272 26 0.769 230.7 220.7 230.2",
  "0.973 220 0.226 220 0.149 230.5 0.1682 220 0 230 0.40 230 1 220 0.4 9 0.165 230 220 0.573",
  "230.4 0.387 230.2 0.80 220.3 0.70 220.2 230.3 220 230 220.4 0.49 230 220 230 220 0.192 9 0.41",
  "9 0.14 9 0.57 9 7 0.69 230.3 0.48 9.2 0.62 7 0.76 9 0.9 7 0.106 9 7 0.178 7 9 0.80 7.2 0.16 9",
  "0.24 230.7 0.3 230.5 0.205 9 0.3 7 0.23 230 0.99 9 7 0.251 9 7 0.126 9 0.118 9 7 0.115 9 0.269",
  "9 7 0.258 9.2 0.4 7 0.156 9 0.83 9 0.18 9 0.81 9 0.421 9 0.258 7 0 9.2 0.81 9 0.425 9.2",
  "0.19373 1.5 0.59 230.7 0.1209 6.2 0.19628 1 0.5318 216.2 1.3 0.3 226 216.5 0.8 220.8 0.2 230.5",
  "220.2 0.30 230.4 0.148 230.3 0.3515 230.7 0 230.17 0.2 230.7 0 230.2 0 230.5 0.100 230 0.160",
  "230.7 0.375 230 0.61 230.4 0.508 232.2 220 230 0.992 220.7 0.109 230.6 7 0.988853"]


def combiningRuns : List Run := runsOf combiningTable

/-- The canonical combining class; 0 for what does not combine. -/
def combiningClass (c : Char) : Nat :=
  if c.toNat < 0x300 then 0
  else (Text.decimal? (valueAt combiningRuns c.toNat).toList).getD 0

end SiteWalk.Unicode
