import SiteWalk.Unicode.Runs

/-!
# Joining types

How the letters of cursive scripts join their neighbours.
-/

namespace SiteWalk.Unicode

/-- The property `Joining_Type`. -/
def joiningTable : List String := [
  "U.173 T U.594 T.112 U.275 T.7 U.263 T.45 U T U T.2 U T.2 U T U.72 T.11 U T U.3 D U R.4 D R D R",
  "D.5 R.4 D.13 C D.7 R D.2 T.21 U.14 D.2 T R.3 U R.3 D.16 R.18 D.38 R D.2 R.9 D R D R D.2 R.2 U",
  "R T.7 U.2 T.6 U.2 T.2 U T.4 R.2 U.10 D.3 U.2 D U.15 T R T D.3 R.5 D.4 R D.9 R D R D R D.2 R",
  "T.27 U.2 R D.11 R.3 D.15 R.2 D.4 R D R.2 D.3 R.2 D.6 U.38 T.11 U.25 D.33 T.9 U.6 C U.2 T U.24",
  "T.4 U T.9 U T.3 U T.5 U.18 R D.5 R.2 D R D.10 R D R.3 T.3 U.4 D U D.4 U R D R.2 U.5 R.19 C.3 D",
  "U.2 D.5 R U.9 T.8 D.10 R.3 U R D.2 R.2 D.6 R D.15 U T.24 U T.32 U.55 T U T U.4 T.8 U.4 T U.3",
  "T.7 U.10 T.2 U.29 T U.58 T U.4 T.4 U.8 T U.20 T.2 U.26 T U.2 T.2 U.57 T U.4 T.2 U.4 T.2 U.2",
  "T.3 U.3 T U.30 T.2 U.3 T U.11 T.2 U.57 T U.4 T.5 U T.2 U.4 T U.20 T.2 U.22 T.6 U T U.58 T U.2",
  "T U T.4 U.8 T U.7 T.2 U.11 T.2 U.30 T U.61 T U.12 T U.50 T U.3 T U.55 T U T.3 U.5 T.3 U T.4",
  "U.7 T.2 U.11 T.2 U.29 T U.58 T U.2 T U.6 T U.5 T.2 U.20 T.2 U.28 T.2 U.57 T.2 U.4 T.4 U.8 T",
  "U.20 T.2 U.29 T U.72 T U.7 T.3 U T U.90 T U.2 T.7 U.12 T.8 U.98 T U.2 T.9 U.11 T.7 U.73 T.2",
  "U.27 T U T U T U.55 T.14 U T.5 U T.2 U.5 T.11 U T.36 U.9 T U.102 T.4 U T.6 U T.2 U.2 T.2 U.25",
  "T.2 U.4 T.3 U.16 T.4 U.13 T U.2 T.2 U.6 T U.15 T U.703 T.3 U.946 T.3 U.29 T.2 U.30 T.2 U.30",
  "T.2 U.64 T.2 U T.7 U.8 T U.2 T.11 U.9 T U.41 D U.2 C T.3 U T U.16 D.89 U.12 T.2 D.34 T D U.117",
  "T.3 U.4 T.2 U.9 T U.6 T.3 U.219 T.2 U.2 T U.58 T U T.7 U T U T U.2 T.8 U.6 T.10 U.2 T U.48",
  "T.31 U.49 T.4 U.48 T U T.5 U T U.5 T U.40 T.9 U.12 T.2 U.32 T.4 U.2 T.2 U T.3 U.56 T U T.2 U.3",
  "T U T.3 U.58 T.8 U.2 T.2 U.152 T.3 U T.13 U T.7 U.4 T U.6 T U.3 T.2 U.198 T.64 U.523 T U C T.2",
  "U.26 T.5 U.49 T.5 U.5 T.6 U.96 T.33 U.3070 T.3 U.141 T U.96 T.32 U.554 T.4 U.107 T.2 U.30164",
  "T.4 U T.10 U.32 T.2 U.80 T.2 U.272 T U.3 T U.4 T U.25 T.2 U.5 T U.19 D.50 L U.81 T.2 U.26 T.18",
  "U.13 T U.38 T.8 U.25 T.11 U.46 T.3 U.48 T U.2 T.4 U.2 T.2 U.39 T U.67 T.6 U.2 T.2 U.2 T.2 U.12",
  "T U.8 T U.47 T U.51 T U T.3 U.2 T.2 U.5 T.2 U T U.42 T.2 U.8 T U.238 T U.2 T U.4 T U.20272 T",
  "U.737 T.16 U.16 T.16 U.207 T U.249 T.3 U.513 T U.226 T U.149 T.5 U.1670 T.3 U T.2 U.5 T.4 U.40",
  "T.3 U.4 T U.128 D.5 R U R U R.2 U.2 L R.5 D.4 L D.5 R D.3 R U.2 R T.2 U.4 D.4 R U.144 D R D",
  "R.3 D.3 R D.2 R D R.2 D R U.23 R.4 D.2 U.337 L D.33 R D T.4 U.387 T.2 U.80 T.3 U.48 D.3 R D.17",
  "U T.11 D.3 R U.27 D.4 R.2 D.12 T.4 U.42 D U D.2 R.3 U D R.2 D.2 R D.2 U D R.2 D U.4 R D L U.53",
  "T U.54 T.15 U.41 T U.2 T.2 U.10 T.3 U.49 T.4 U.2 T.2 U.7 T U.61 T.3 U.36 T.5 U T.8 U.62 T U.12",
  "T.2 U.52 T.9 U.10 T.4 U.2 T U.95 T.3 U.2 T U T.2 U.6 T U.2 T U.157 T U.3 T.8 U.21 T.2 U.57 T.2",
  "U.3 T U.37 T.7 U.3 T.5 U.195 T.8 U.2 T.3 U T U.23 T U.84 T.6 U T U.4 T.2 U T.2 U.238 T.4 U.6",
  "T.2 U T.2 U.27 T.2 U.85 T.8 U.2 T U T.2 U.106 T U T U.2 T.6 U T U.101 T.3 U.2 T.4 U T.5 U.259",
  "T.9 U T.2 U.256 T.2 U T U.4 T U.144 T.4 U.2 T.2 U.4 T U.32 T.10 U.40 T.6 U.2 T.4 U.8 T U.9 T.6",
  "U.2 T.3 U.46 T.13 U T.2 U.406 T.7 U T.6 U T U.82 T.22 U.2 T.7 U T.2 U T.2 U.122 T.6 U.3 T U",
  "T.2 U T.7 U T U.72 T.2 U.3 T U T U.347 T.2 U.11 T.2 U.52 T.5 U.5 T U T U.5357 T.17 U.6 T.15",
  "U.13978 T.5 U.59 T.7 U.1048 T U.63 T.4 U.81 T U.19640 T.2 U T.4 U.4700 T.46 U.2 T.23 U.544 T.3",
  "U.9 T.16 U.2 T.7 U.30 T.4 U.148 T.3 U.1979 T.55 U.4 T.50 U.8 T U.14 T U.22 T.5 U T.15 U.1360",
  "T.7 U T.17 U.2 T.7 U T.2 U T.5 U.100 T U.160 T.7 U.375 T U.61 T.4 U.508 T.4 U.992 T.7 U.41",
  "D.68 T.8 U.792245 T U.30 T.96 U.128 T.240 U.196112"]


def joiningRuns : List Run := runsOf joiningTable

/-- The joining type of a character. -/
def joiningType (c : Char) : String := valueAt joiningRuns c.toNat

end SiteWalk.Unicode
