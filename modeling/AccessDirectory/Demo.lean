import AccessDirectory.Directory
import AccessDirectory.Event

/-! The directories and sessions of demo mode: an administrator, a user who may read one connection as
a member of a group, and two connections. -/

namespace AccessDirectory.Demo

def provider : String := "default"
def administrator : String := "guacadmin"
def member : String := "alice"
def group : String := "operators"

def users : Directory .user where
  objects := .ofList [
    (administrator, {
      identifier := some administrator
      attributes := .ofList [("guac-full-name", some "Administrator")]
      permissions := { system := [.administer] } }),
    (member, {
      identifier := some member
      attributes := .ofList [("guac-full-name", some "Alice")]
      groups := [group] })]

def userGroups : Directory .userGroup where
  objects := .ofList [
    (group, {
      identifier := some group
      permissions := { connection := ObjectPermissions.empty.add .read "1" } })]

def connections : Directory .connection where
  objects := .ofList [
    ("1", {
      identifier := some "1"
      name := "web-01"
      protocol := "ssh"
      parameters := .ofList [("hostname", "web-01.internal"), ("port", "22")] }),
    ("2", {
      identifier := some "2"
      name := "db-01"
      protocol := "rdp"
      parameters := .ofList [("hostname", "db-01.internal"), ("port", "3389")] })]
  counter := some 3

def directories : Directories where
  users := some users
  userGroups := some userGroups
  connections := some connections

def declared : Kind → List String
  | .user => ["disabled", "expired", "guac-full-name", "guac-email-address", "guac-organization"]
  | .userGroup => ["disabled"]
  | .connection => ["max-connections", "max-connections-per-user", "weight"]

def session (username : String) : Session := ⟨username, username, provider⟩

def sessions : Sessions :=
  .ofList [(administrator, session administrator), (member, session member)]

end AccessDirectory.Demo
