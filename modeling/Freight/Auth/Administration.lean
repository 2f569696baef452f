import Freight.Auth.Endpoints
import Freight.Library.Pool

/-! Accounts administered: `createUser`, `updateUserStatus` and `updateUserRole`, a statement at a time. -/

namespace Freight.Auth

open Dispatch (Role UserStatus User Requester)

/-- `users`, under its serial. -/
abbrev Users := Table User User.id

/-- `STAFF_ROLES.includes`: what a role names once it is in lower case. -/
def staffRole (lower : String → String) (role : String) : Option Role :=
  if lower role = "admin" then some .admin
  else if lower role = "dispatcher" then some .dispatcher
  else none

/-- The two statuses `updateUserStatus` takes. -/
inductive Decision where
  | suspended
  | approved
  deriving DecidableEq

/-- What they are in `users.status`. -/
def Decision.status : Decision → UserStatus
  | .suspended => .suspended
  | .approved => .approved

/-- What the status of a request names. -/
def decision (status : Option String) : Option Decision :=
  match status with
  | some "suspended" => some .suspended
  | some "approved" => some .approved
  | _ => none

/-- A request of an administrator. -/
inductive AdminRequest where
  | createUser (username password : Option String) (role : String)
  | updateUserStatus (requester : Requester) (id : Nat) (status : Option String)
  | updateUserRole (id : Nat) (role : Option String)

/-- What is sent back. -/
inductive AdminAnswer where
  | created (id : Nat) (username : String) (role : Role)
  | statusSet (id : Nat) (username : String) (status : Decision)
  | roleSet (id : Nat) (username : String) (role : Role)
  | failed (failure : Failure)
  deriving DecidableEq

/-- How far a request has come, by its next statement. -/
inductive AdminCall where
  | insertUser (username : String) (role : Role)
  /-- `SELECT id, username, role, status`. -/
  | readTarget (requester : Requester) (id : Nat) (status : Decision)
  /-- The other administrators are counted. -/
  | countOthers (user : User)
  | updateStatus (user : User) (status : Decision)
  | revokeSessions (user : User)
  | readRole (id : Nat) (role : Role)
  | updateRole (id : Nat) (role : Role)
  | done (answer : AdminAnswer)
  /-- The process has stopped. -/
  | stopped
  deriving DecidableEq

/-- A statement, by what it does to `users`. -/
inductive AdminStatement where
  /-- It reads, or writes another table, or fails. -/
  | nothing
  | insertUser (username : String) (role : Role)
  | setStatus (id : Nat) (status : UserStatus)
  | setRole (id : Nat) (role : Role)

/-- What a statement is answered with. -/
inductive DbAnswer where
  | works
  | fails
  deriving DecidableEq

/-- What `createUser` refuses before it asks the database. -/
def checkNewUser (lower : String → String) (username password : Option String) (role : String) :
    Except Failure (String × Role) := do
  -- The three checks in the order of the handler, each with its own answer.
  let username ← demand (username.filter fun username =>
      3 ≤ (trim username.toList).length && (trim username.toList).length ≤ 50)
    ⟨400, "ADMIN_USER_INVALID_USERNAME", "Username must be 3 to 50 characters long."⟩
  let _ ← demand (password.filter fun password => 8 ≤ password.length && password.length ≤ 128)
    ⟨400, "ADMIN_USER_INVALID_PASSWORD", "Password must be at least 8 characters long."⟩
  let role ← demand (staffRole lower role)
    ⟨400, "ADMIN_USER_INVALID_ROLE", "Role must be one of: admin, dispatcher."⟩
  return (String.ofList (trim username.toList), role)

/-- What `updateUserRole` refuses before it asks the database. -/
def checkRole (lower : String → String) (role : Option String) : Except Failure Role := do
  let role ← demand (role.filter fun role => role ≠ "") ⟨400, "ADMIN_ROLE_REQUIRED", "Role is required."⟩
  demand (staffRole lower role) ⟨400, "ADMIN_ROLE_INVALID", "Role must be one of: admin, dispatcher."⟩

/-- Where a request begins. -/
def AdminRequest.begin_ (lower : String → String) : AdminRequest → AdminCall
  | .createUser username password role =>
    match checkNewUser lower username password role with
    | .error failure => .done (.failed failure)
    | .ok (username, role) => .insertUser username role
  -- The body is checked before any row is read.
  | .updateUserStatus requester id status =>
    match decision status with
    | none =>
      .done (.failed ⟨400, "ADMIN_USER_STATUS_INVALID", "Status must be 'suspended' or 'approved'."⟩)
    | some status => .readTarget requester id status
  | .updateUserRole id role =>
    match checkRole lower role with
    | .error failure => .done (.failed failure)
    | .ok role => .readRole id role

/-- An administrator who can sign in. -/
def governs (user : User) : Bool := user.role = .admin && user.status = .approved

/-- The count `updateUserStatus` takes: the administrators there are besides one account. -/
def otherAdmins (users : Users) (id : Nat) : Nat :=
  users.rows.countP fun user => governs user && user.id ≠ id

/-- What a handler answers when a statement of its throws. -/
def AdminCall.caught : AdminCall → AdminCall
  | .insertUser _ _ => .done (.failed ⟨500, "ADMIN_USER_CREATE_FAILED", "Failed to create user."⟩)
  | .readTarget .. | .countOthers _ | .updateStatus _ _ | .revokeSessions _ =>
    .done (.failed ⟨500, "ADMIN_USER_STATUS_FAILED", "Could not change that account."⟩)
  | .readRole _ _ | .updateRole _ _ =>
    .done (.failed ⟨500, "ADMIN_ROLE_UPDATE_FAILED", "Failed to update user role."⟩)
  | call => call

/-- The statement a request is at when it works, and where the request goes from there. -/
def AdminCall.proceed (users : Users) : AdminCall → AdminStatement × AdminCall
  | .insertUser username role =>
    if users.rows.any fun user => user.username = username then
      -- 23505: the name is unique.
      (.nothing, .done (.failed ⟨400, "ADMIN_USER_USERNAME_TAKEN", "Username is already taken."⟩))
    else (.insertUser username role, .done (.created users.nextSerial username role))
  | .readTarget requester id status =>
    match users.find? id with
    | none =>
      (.nothing, .done (.failed ⟨404, "ADMIN_USER_NOT_FOUND", "That account no longer exists."⟩))
    | some user =>
      if status = .suspended && user.username = requester.username then
        (.nothing, .done (.failed ⟨400, "ADMIN_USER_SELF_SUSPEND", "You cannot suspend your own account."⟩))
      else if status = .suspended && user.role = .admin then (.nothing, .countOthers user)
      else (.nothing, .updateStatus user status)
  | .countOthers user =>
    if otherAdmins users user.id = 0 then
      (.nothing, .done (.failed ⟨400, "ADMIN_USER_LAST_ADMIN",
        "This is the only active admin — promote another before suspending this one."⟩))
    else (.nothing, .updateStatus user .suspended)
  | .updateStatus user status =>
    (.setStatus user.id status.status,
      if status = .suspended then .revokeSessions user
      else .done (.statusSet user.id user.username status))
  | .revokeSessions user => (.nothing, .done (.statusSet user.id user.username .suspended))
  | .readRole id role =>
    match users.find? id with
    | none => (.nothing, .done (.failed ⟨404, "ADMIN_USER_NOT_FOUND", "User not found."⟩))
    | some user =>
      if user.role = .driver then
        (.nothing, .done (.failed ⟨400, "ADMIN_ROLE_DRIVER_NOT_GOVERNED",
          "Driver roles are managed through account approval and document verification, not role governance."⟩))
      else (.nothing, .updateRole id role)
  | .updateRole id role =>
    (.setRole id role, match users.find? id with
      | none => .done (.failed ⟨404, "ADMIN_USER_NOT_FOUND", "User not found."⟩)
      | some user => .done (.roleSet id user.username role))
  | .done answer => (.nothing, .done answer)
  | .stopped => (.nothing, .stopped)

/-- The statement a request is at, and where the request goes from there. -/
def AdminCall.next (users : Users) (answer : DbAnswer) (call : AdminCall) : AdminStatement × AdminCall :=
  match answer with
  | .works => call.proceed users
  | .fails => (.nothing, call.caught)

/-- A status set keeps the account the one it is. -/
theorem withStatus_id (status : UserStatus) (user : User) : { user with status := status }.id = user.id :=
  rfl

/-- A role set keeps the account the one it is. -/
theorem withRole_id (role : Role) (user : User) : { user with role := role }.id = user.id := rfl

/-- An account that is created is entered under the serial. -/
theorem newUser_id (username : String) (role : Role) (serial : Nat) :
    ({ id := serial, username := username, role := role } : User).id = serial := rfl

/-- What a statement does to `users`. Each commits by itself. -/
def AdminStatement.execute (users : Users) : AdminStatement → Users
  | .nothing => users
  | .insertUser username role =>
    users.insert (fun serial => { id := serial, username := username, role := role })
      (newUser_id username role)
  | .setStatus id status => users.update id (fun user => { user with status := status }) (withStatus_id status)
  | .setRole id role => users.update id (fun user => { user with role := role }) (withRole_id role)

/-- Accounts administered in any interleaving. -/
def administration (lower : String → String) :
    CallSystem Users AdminStatement AdminRequest AdminCall DbAnswer Empty Unit where
  start := AdminRequest.begin_ lower
  next := fun users answer call => call.next users answer
  execute := fun statement users => statement.execute users
  -- No row is locked: every statement is a transaction of its own.
  holds := fun _ => []
  needs := fun _ => []
  outside := fun event _ => event.elim
  outsideNeeds := fun _ => []
  stopped := .stopped

end Freight.Auth
