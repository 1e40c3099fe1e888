import VehiclesOnline.Session.Cookies

/-! A browser that keeps each cookie for as long as it was told to, by a clock that counts
milliseconds. -/

namespace VehiclesOnline

open KeyValue (Assignment Store assignAll)

/-- The cookies of a browser, and when those of them expire that are not kept for the session of
the browser. -/
structure Browser where
  jar : Jar := ∅
  expiresAt : Store String fun _ => ℤ := fun _ => none

/-- When a cookie expires that arrives now. -/
def Cookie.expiresAt (now : ℤ) (cookie : Cookie) : Option ℤ :=
  cookie.maxAge.map fun seconds => now + 1000 * seconds

/-- A cookie with an age is noted with its time, one without takes the time away. -/
def Cookie.deadline (now : ℤ) (cookie : Cookie) : Assignment String fun _ => ℤ :=
  ⟨cookie.name, cookie.expiresAt now⟩

theorem Cookie.lt_of_expiresAt {cookie : Cookie} (h : cookie.expired = false) {now time : ℤ}
    (htime : cookie.expiresAt now = some time) : now < time := by
  rw [Cookie.expiresAt, Option.map_eq_some_iff] at htime
  obtain ⟨seconds, hage, rfl⟩ := htime
  simp only [Cookie.expired, hage, decide_eq_false_iff_not, not_le] at h
  omega

namespace Browser

variable (browser : Browser) (now : ℤ)

def hasExpired (name : String) : Bool :=
  match browser.expiresAt name with
  | some time => decide (time ≤ now)
  | none => false

/-- The cookies that the browser sends: what has expired is gone, as if it was discarded. -/
def cookies : Jar :=
  browser.jar.receive ((browser.jar.names.filter (browser.hasExpired now)).map fun name =>
    DiscardingCookie.toCookie { name := name })

/-- The browser applies the cookies of a response to what it sent. -/
def receive (setCookies : List Cookie) : Browser where
  jar := (browser.cookies now).receive setCookies
  expiresAt := assignAll browser.expiresAt (setCookies.map (Cookie.deadline now))

variable {browser now} {name : String}

theorem hasExpired_of_none (h : browser.expiresAt name = none) :
    browser.hasExpired now name = false := by
  rw [hasExpired, h]

theorem hasExpired_of_some {time : ℤ} (h : browser.expiresAt name = some time) :
    browser.hasExpired now name = decide (time ≤ now) := by
  rw [hasExpired, h]

theorem get_cookies (browser : Browser) (now : ℤ) (name : String) :
    (browser.cookies now).get name =
      if browser.hasExpired now name = true then none else browser.jar.get name := by
  rw [cookies, Jar.get_receive_discarding]
  by_cases hexpired : browser.hasExpired now name = true
  · rw [if_pos hexpired]
    by_cases hmem : name ∈ browser.jar.names
    · rw [if_pos (List.mem_filter.mpr ⟨hmem, hexpired⟩)]
    · rw [if_neg fun h => hmem (List.mem_of_mem_filter h)]
      exact not_not.mp fun hget => hmem (Jar.mem_names.mpr hget)
  · rw [if_neg hexpired, if_neg fun h => hexpired (List.mem_filter.mp h).2]

theorem get_cookies_eq_or (browser : Browser) (now : ℤ) (name : String) :
    (browser.cookies now).get name = browser.jar.get name ∨
      (browser.cookies now).get name = none := by
  rw [get_cookies]
  split
  · exact .inr rfl
  · exact .inl rfl

/-- What a response does to a cookie is what its last cookie of that name does. -/
theorem receive_cases (browser : Browser) (now : ℤ) (setCookies : List Cookie) (name : String) :
    ((∀ cookie ∈ setCookies, cookie.name ≠ name) ∧
      (browser.receive now setCookies).jar.get name = (browser.cookies now).get name ∧
      (browser.receive now setCookies).expiresAt name = browser.expiresAt name) ∨
    ∃ cookie ∈ setCookies, cookie.name = name ∧
      (browser.receive now setCookies).jar.get name = cookie.assignment.2 ∧
      (browser.receive now setCookies).expiresAt name = cookie.expiresAt now := by
  rcases KeyValue.forall_ne_or_exists_last Cookie.name name setCookies with
    hne | ⟨before, cookie, after, rfl, rfl, hafter⟩
  · refine .inl ⟨hne, Jar.get_receive_of_forall_ne hne _, ?_⟩
    refine KeyValue.assignAll_of_forall_ne (fun a ha => ?_) _
    obtain ⟨cookie, hc, rfl⟩ := List.mem_map.mp ha
    exact hne cookie hc
  · refine .inr ⟨cookie, by simp, rfl, ?_, ?_⟩
    · rw [receive, Jar.get_receive]
      exact KeyValue.assignAll_last Cookie.assignment Cookie.assignment_fst hafter _
    · exact KeyValue.assignAll_last (Cookie.deadline now) (fun _ => rfl) hafter _

/-! ### Cookies that do not expire before a time -/

/-- No cookie of the browser expires before the time. -/
def KeepsUntil (time : ℤ) (browser : Browser) : Prop :=
  ∀ name, browser.jar.get name ≠ none → ∀ expires, browser.expiresAt name = some expires →
    time ≤ expires

theorem KeepsUntil.get_cookies {time : ℤ} (h : browser.KeepsUntil time) (hnow : now < time) :
    (browser.cookies now).get = browser.jar.get := by
  funext name
  rw [Browser.get_cookies]
  by_cases hget : browser.jar.get name = none
  · rw [hget, ite_self]
  · cases hexpires : browser.expiresAt name with
    | none => rw [hasExpired_of_none hexpires, if_neg Bool.false_ne_true]
    | some expires =>
        have htime := h name hget expires hexpires
        rw [hasExpired_of_some hexpires, if_neg (by rw [decide_eq_true_eq]; omega)]

/-- The cookies that are sent and those that arrive are to be kept. -/
theorem keepsUntil_receive {time : ℤ} {setCookies : List Cookie}
    (hsent : ∀ name, (browser.cookies now).get name ≠ none →
      ∀ expires, browser.expiresAt name = some expires → time ≤ expires)
    (hset : ∀ cookie ∈ setCookies, cookie.expired = false →
      ∀ expires, cookie.expiresAt now = some expires → time ≤ expires) :
    (browser.receive now setCookies).KeepsUntil time := by
  intro name hget expires hexpires
  rcases browser.receive_cases now setCookies name with
    ⟨-, hjar, hsame⟩ | ⟨cookie, hc, rfl, hjar, htime⟩
  · exact hsent name (hjar ▸ hget) expires (hsame.symm.trans hexpires)
  · refine hset cookie hc ?_ expires (htime.symm.trans hexpires)
    rw [← Bool.not_eq_true]
    intro hexpired
    refine hget (hjar.trans ?_)
    rw [Cookie.assignment, hexpired, if_pos rfl]

theorem KeepsUntil.receive {time : ℤ} {setCookies : List Cookie} (h : browser.KeepsUntil time)
    (hset : ∀ cookie ∈ setCookies, cookie.expired = false →
      ∀ expires, cookie.expiresAt now = some expires → time ≤ expires) :
    (browser.receive now setCookies).KeepsUntil time := by
  refine keepsUntil_receive (fun name hget => h name fun hnone => hget ?_) hset
  rw [Browser.get_cookies, hnone, ite_self]

/-- What a browser has after a response does not expire at once. -/
theorem keepsUntil_succ (browser : Browser) (now : ℤ) (setCookies : List Cookie) :
    (browser.receive now setCookies).KeepsUntil (now + 1) := by
  refine keepsUntil_receive (fun name hget expires hexpires => ?_)
    fun cookie _ hlive expires hexpires => Cookie.lt_of_expiresAt hlive hexpires
  rw [Browser.get_cookies, hasExpired_of_some hexpires] at hget
  by_contra hnot
  exact hget (if_pos (decide_eq_true (by omega)))

end Browser

end VehiclesOnline
