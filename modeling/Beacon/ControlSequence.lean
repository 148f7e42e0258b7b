/-!
# Control sequences in a text

A terminal takes some characters of a text as orders to itself. `visible` keeps what a terminal
shows of a text: the characters outside of control sequences, without the control characters among
them that are no white space. Control characters are those before the space, and delete.

Every sequence begins with an escape character, and the character after it says what kind it is.
A sequence that is not finished runs to the end of the text. Inside of any sequence the cancel and
the substitute character break it off, and an escape character begins another one; white space
breaks off a sequence that holds no string, and is shown.

No other control character is left (`forall_isShown_visible`), and a text that has none stays as it
is (`visible_of_forall_isShown`).
-/

namespace Beacon.ControlSequence

/-- What the next character of a text belongs to. -/
inductive Place where
  | outside
  /-- A sequence of which only the escape character has been there. -/
  | escape
  /-- An escape sequence behind an intermediate character. -/
  | escapeTail
  | control
  | command
  /-- A string for a device, from its head on. -/
  | device
  | deviceParameters
  /-- The intermediate characters before a string for a device. -/
  | deviceTail
  /-- A string, up to its terminator. -/
  | body
deriving DecidableEq

/-! ## Characters -/

def inRange (first last c : Char) : Bool := first ≤ c && c ≤ last

/-- A character that may stand between the beginning and the end of a sequence. -/
def isIntermediate : Char → Bool := inRange ' ' '/'

def isParameter : Char → Bool := inRange '0' '?'

def isFinal : Char → Bool := inRange '@' '~'

/-- A control character that a terminal shows as white space. -/
def isSpacing (c : Char) : Bool := c = '\t' || c = '\n' || c = '\x0c' || c = '\r'

def isShown (c : Char) : Bool := isSpacing c || (' ' ≤ c && c != '\x7f')

/-- Whether a character ends a string. The terminator is a byte, which counts wherever it stands in
a character. -/
def terminates (c : Char) : Bool := (String.utf8EncodeChar c).contains 0x9C

/-! ## Places -/

/-- The place behind an escape character and the character that says what it begins. -/
def Place.opened (c : Char) : Place :=
  if c = '[' then .control
  else if c = ']' then .command
  else if c = 'P' then .device
  else if c = 'X' || c = '^' || c = '_' then .body
  else .outside

/-- The place behind a character that neither breaks off nor begins a sequence. -/
def Place.proceed (place : Place) (c : Char) : Place :=
  match place with
  | .outside => .outside
  | .escape =>
    if isSpacing c then .outside
    else if isIntermediate c then .escapeTail
    else if isParameter c || isFinal c then .opened c
    else .escape
  | .escapeTail =>
    if isSpacing c || isParameter c || isFinal c then .outside else .escapeTail
  | .control =>
    if isSpacing c || isFinal c then .outside else .control
  | .command =>
    if c = '\x07' then .outside else .command
  | .device =>
    if isParameter c then .deviceParameters
    else if isIntermediate c then .deviceTail
    else if isFinal c then .body
    else .device
  | .deviceParameters =>
    if inRange '<' '?' c || isFinal c then .body
    else if isIntermediate c then .deviceTail
    else .deviceParameters
  | .deviceTail =>
    if isParameter c || isFinal c then .body else .deviceTail
  | .body =>
    if terminates c then .outside else .body

def Place.next (place : Place) (c : Char) : Place :=
  if c = '\x1b' then .escape
  else if c = '\x18' || c = '\x1a' then .outside
  else place.proceed c

def Place.shows (place : Place) (c : Char) : Bool :=
  match place with
  | .outside => isShown c
  | .escape | .escapeTail | .control => isSpacing c
  | .command | .device | .deviceParameters | .deviceTail | .body => false

/-- The characters that are shown of those behind a place. -/
def Place.shown (place : Place) : List Char → List Char
  | [] => []
  | c :: rest =>
    if place.shows c then c :: (place.next c).shown rest else (place.next c).shown rest

/-- What a terminal shows of a text. -/
def visible (text : String) : String := String.ofList (Place.outside.shown text.toList)

/-! ## What is left -/

theorem isShown_of_shows {place : Place} {c : Char} (h : place.shows c = true) :
    isShown c = true := by
  cases place <;> simp_all [Place.shows, isShown]

theorem isShown_of_mem_shown {place : Place} {text : List Char} {c : Char}
    (h : c ∈ place.shown text) : isShown c = true := by
  induction text generalizing place with
  | nil => simp [Place.shown] at h
  | cons d rest ih =>
    rw [Place.shown] at h
    split at h
    next shows =>
      rcases List.mem_cons.1 h with rfl | h
      · exact isShown_of_shows shows
      · exact ih h
    next => exact ih h

theorem next_outside {c : Char} (h : isShown c = true) : Place.outside.next c = .outside := by
  have escape : c ≠ '\x1b' := by
    rintro rfl
    exact absurd h (by decide)
  simp [Place.next, Place.proceed, escape]

theorem shown_outside {text : List Char} (h : ∀ c ∈ text, isShown c = true) :
    Place.outside.shown text = text := by
  induction text with
  | nil => rfl
  | cons c rest ih =>
    have shown := h c List.mem_cons_self
    rw [Place.shown, next_outside shown, ih fun d hd => h d (List.mem_cons_of_mem c hd)]
    simp [Place.shows, shown]

/-- Whatever is visible is shown outside of sequences. -/
theorem forall_isShown_visible (text : String) :
    ∀ c ∈ (visible text).toList, isShown c = true := by
  intro c h
  rw [visible, String.toList_ofList] at h
  exact isShown_of_mem_shown h

/-- A text of which every character is shown outside of sequences is visible as it is. -/
theorem visible_of_forall_isShown {text : String} (h : ∀ c ∈ text.toList, isShown c = true) :
    visible text = text := by
  rw [visible, shown_outside h, String.ofList_toList]

end Beacon.ControlSequence
