import Gazetteer.About
import Gazetteer.Configuration.Basic

/-!
The banner that is printed before the server starts: where it listens and where it sends queries.
-/

namespace Gazetteer.Banner

/-- A text in the colours and weights that a terminal knows by numbers. -/
def styled (codes : List Nat) (s : String) : String :=
  String.join (codes.map fun code => "\x1b[" ++ toString code ++ "m") ++ s ++ "\x1b[0m"

def bold : Nat := 1

def green : Nat := 32

def yellow : Nat := 33

def cyan : Nat := 36

def grey : Nat := 90

/-- The host as a client on the same machine names it. -/
def shownHost (host : String) : String := if host = "0.0.0.0" || host = "::" then "localhost" else host

def labelWidth : Nat := 11

def line (colour : Nat) (label value : String) : String :=
  "  " ++ styled [colour] "➜" ++ "  " ++ styled [bold] (label.pushn ' ' (labelWidth - label.length)) ++ " " ++ value
    ++ "\n"

def address (c : Configuration) (path : String) : String :=
  styled [cyan] ("http://" ++ shownHost c.host ++ ":" ++ toString c.port ++ path)

def text (c : Configuration) : String :=
  "\n  " ++ styled [bold, cyan] "Entity Search" ++ " " ++ styled [grey] ("v" ++ version) ++ "\n\n"
    ++ line green "API:" (address c "/api/v1/entity")
    ++ line green "OpenAPI:" (address c "/api/openapi.json")
    ++ line yellow "Datasette:"
        (Datasette.endpoint c.datasette ++ " " ++ styled [grey] ("(" ++ c.datasette.mode.name ++ " params)"))
    ++ "\n"

end Gazetteer.Banner
