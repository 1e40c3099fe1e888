import Mathlib.Data.List.AList
import VehiclesOnline.Library.BlockMode
import VehiclesOnline.Library.KeyValue

/-! Cookies as Play hands them to a browser and as the browser sends them back.
Every cookie of the application has the default path and no domain, so cookies are
told apart by their names alone. -/

namespace VehiclesOnline

/-- The classes of the exceptions that the application and the libraries throw. -/
inductive ExceptionClass
  | invalidSessionException
  | badPaddingException
  | illegalBlockSizeException
  | invalidAlgorithmParameterException
  | assertionError
  | jsonParseException
  | jsonValidationException
  | csrfPreventionException
  | noSuchElementException
  | indexOutOfBoundsException
  | illegalArgumentException
  | uriSyntaxException
  | runtimeException
  deriving DecidableEq, Repr

structure Throwable where
  exceptionClass : ExceptionClass
  getMessage : Option String
  deriving DecidableEq, Repr

def invalidSessionException (message : String) : Throwable :=
  ⟨.invalidSessionException, some message⟩

/-- The sixteen bytes that one call of the secure random generator fills. -/
abbrev SecureRandomBytes := BlockMode.Block 16

structure Cookie where
  name : String
  value : String
  maxAge : Option ℤ := none
  secure : Bool := false
  deriving DecidableEq, Repr

structure DiscardingCookie where
  name : String
  secure : Bool := false

/-- One day in the past. -/
def DiscardingCookie.toCookie (cookie : DiscardingCookie) : Cookie :=
  { name := cookie.name, value := "", maxAge := some (-86400), secure := cookie.secure }

/-- A browser removes a cookie that is already too old when it arrives. -/
def Cookie.expired (cookie : Cookie) : Bool :=
  match cookie.maxAge with
  | some seconds => decide (seconds ≤ 0)
  | none => false

@[simp] theorem DiscardingCookie.toCookie_name (cookie : DiscardingCookie) :
    cookie.toCookie.name = cookie.name := rfl

@[simp] theorem DiscardingCookie.toCookie_expired (cookie : DiscardingCookie) :
    cookie.toCookie.expired = true := rfl

/-- A later cookie replaces an earlier one of the same name. -/
def Cookies.merge (cookies added : List Cookie) : List Cookie :=
  KeyValue.keepLast Cookie.name (cookies ++ added)

/-- A response: what the browser shows, and the cookies that it is told to set. -/
structure SimpleResult (α : Type*) where
  content : α
  setCookies : List Cookie := []

namespace SimpleResult

variable {α : Type*}

def withCookies (result : SimpleResult α) (cookies : List Cookie) : SimpleResult α :=
  { result with setCookies := Cookies.merge result.setCookies cookies }

def discardingCookies (result : SimpleResult α) (cookies : List DiscardingCookie) :
    SimpleResult α :=
  result.withCookies (cookies.map DiscardingCookie.toCookie)

theorem mem_withCookies {result : SimpleResult α} {cookies : List Cookie} {cookie : Cookie}
    (h : cookie ∈ (result.withCookies cookies).setCookies) :
    cookie ∈ result.setCookies ∨ cookie ∈ cookies :=
  List.mem_append.mp (KeyValue.mem_of_mem_keepLast h)

end SimpleResult

/-! ### The browser's jar -/

/-- The values of the cookies by name: the browser's jar, and the cookies of a request. -/
abbrev Jar := AList fun _ : String => String

/-- What a cookie of a response does to the jar. -/
def Cookie.assignment (cookie : Cookie) : KeyValue.Assignment String fun _ => String :=
  ⟨cookie.name, if cookie.expired then none else some cookie.value⟩

@[simp] theorem Cookie.assignment_fst (cookie : Cookie) :
    cookie.assignment.1 = cookie.name := rfl

namespace Jar

def get (jar : Jar) (name : String) : Option String := jar.lookup name

def names (jar : Jar) : List String := jar.keys

theorem mem_names {jar : Jar} {name : String} : name ∈ jar.names ↔ jar.get name ≠ none := by
  rw [get, ne_eq, AList.lookup_eq_none, not_not, AList.mem_keys, names]

def put (jar : Jar) (cookie : Cookie) : Jar := jar.insert cookie.name cookie.value

def receiveCookie (jar : Jar) (cookie : Cookie) : Jar :=
  if cookie.expired then jar.erase cookie.name else jar.put cookie

/-- The browser applies all cookies of a response. -/
def receive (jar : Jar) (cookies : List Cookie) : Jar := cookies.foldl receiveCookie jar

/-- The cookies of a request header into which others were merged. -/
def merge (jar : Jar) (cookies : List Cookie) : Jar := cookies.foldl put jar

@[simp] theorem get_put (jar : Jar) (cookie : Cookie) :
    (jar.put cookie).get cookie.name = some cookie.value :=
  AList.lookup_insert jar

theorem get_put_of_ne {jar : Jar} {cookie : Cookie} {name : String} (h : cookie.name ≠ name) :
    (jar.put cookie).get name = jar.get name :=
  AList.lookup_insert_ne h.symm

theorem get_receiveCookie (jar : Jar) (cookie : Cookie) :
    (jar.receiveCookie cookie).get = KeyValue.assign jar.get cookie.assignment := by
  funext n
  rw [receiveCookie, KeyValue.assign, Cookie.assignment]
  by_cases hn : n = cookie.name
  · subst hn
    split <;> simp [get, put]
  · rw [Function.update_of_ne hn]
    split
    · exact AList.lookup_erase_ne hn
    · exact get_put_of_ne (Ne.symm hn)

/-- The jar is a store of raw values, and a response a run of assignments to it. -/
theorem get_receive (jar : Jar) (cookies : List Cookie) :
    (jar.receive cookies).get =
      KeyValue.assignAll jar.get (cookies.map Cookie.assignment) := by
  induction cookies generalizing jar with
  | nil => rfl
  | cons cookie cookies ih =>
      rw [List.map_cons, KeyValue.assignAll_cons, ← get_receiveCookie, ← ih]
      rfl

theorem get_receive_of_forall_ne {name : String} {cookies : List Cookie}
    (h : ∀ cookie ∈ cookies, cookie.name ≠ name) (jar : Jar) :
    (jar.receive cookies).get name = jar.get name := by
  rw [get_receive, KeyValue.assignAll_of_forall_ne]
  intro a ha
  obtain ⟨cookie, hc, rfl⟩ := List.mem_map.mp ha
  exact h cookie hc

theorem get_receive_discarding (names : List String) (jar : Jar) (name : String) :
    (jar.receive (names.map fun name => DiscardingCookie.toCookie { name := name })).get name =
      if name ∈ names then none else jar.get name := by
  induction names generalizing jar with
  | nil => rfl
  | cons n names ih =>
      have hfirst := congrFun
        (get_receiveCookie jar (DiscardingCookie.toCookie { name := n })) name
      rw [List.map_cons, receive, List.foldl_cons, ← receive, ih, hfirst, KeyValue.assign]
      by_cases hn : name = n
      · subst hn
        simp [Cookie.assignment]
      · simp [hn, Function.update_of_ne]

/-- Merging added cookies into a response is the same to the jar as applying them last. -/
theorem get_receive_withCookies {α : Type*} (jar : Jar) (result : SimpleResult α)
    (cookies : List Cookie) :
    (jar.receive (result.withCookies cookies).setCookies).get =
      ((jar.receive result.setCookies).receive cookies).get := by
  funext n
  rw [get_receive, get_receive, get_receive, ← KeyValue.assignAll_append,
    KeyValue.assignAll_apply, KeyValue.assignAll_apply, ← List.map_append,
    SimpleResult.withCookies]
  simp only [Cookies.merge]
  rw [KeyValue.lastAssigned_keepLast Cookie.assignment_fst]

/-- The browser keeps the cookies of a response that are not expired as a request carries
merged ones. -/
theorem receive_eq_merge {cookies : List Cookie} (h : ∀ cookie ∈ cookies, cookie.expired = false)
    (jar : Jar) : jar.receive cookies = jar.merge cookies := by
  induction cookies generalizing jar with
  | nil => rfl
  | cons cookie cookies ih =>
      have htail := ih fun c hc => h c (List.mem_cons_of_mem cookie hc)
      have hhead : jar.receiveCookie cookie = jar.put cookie := by
        rw [receiveCookie, h cookie List.mem_cons_self]
        rfl
      rw [receive, List.foldl_cons, hhead]
      exact htail (jar.put cookie)

/-- Merging removes nothing. -/
theorem get_eq_none_of_merge {name : String} {cookies : List Cookie} {jar : Jar}
    (h : (jar.merge cookies).get name = none) : jar.get name = none := by
  induction cookies generalizing jar with
  | nil => exact h
  | cons cookie cookies ih =>
      have hput : (jar.put cookie).get name = none := ih h
      by_cases hname : cookie.name = name
      · rw [← hname, get_put] at hput
        cases hput
      · rwa [get_put_of_ne hname] at hput

end Jar

end VehiclesOnline
