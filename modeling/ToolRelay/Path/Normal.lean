import ToolRelay.Path.Basic

/-!
# Normal form and comparison of paths

All of this is about the written form, so that it serves for paths that do not exist.

* `Path.normalize` resolves `.` and `..`; a `..` directly below the root is dropped.
* `Path.same` and `Path.isWithin` compare normal forms, by their text with flaws replaced.
-/

namespace ToolRelay

namespace Path

/-- One component of a path, put on the components resolved so far, last first.  A `..` takes
back a name; where there is none it stays in a relative path and is dropped in an absolute one. -/
def resolveStep (absolute : Bool) (done : List Component) : Component → List Component
  | .root => .root :: done
  | .here => done
  | .up =>
    match done with
    | .name _ :: above => above
    | _ => if absolute then done else .up :: done
  | .name bs => .name bs :: done

/-- Components without `.`, and with `..` only at the beginning of a relative path. -/
def resolve (absolute : Bool) (cs : List Component) : List Component :=
  (cs.foldl (resolveStep absolute) []).reverse

/-- The path with `.` and `..` resolved on the written form. -/
def normalize (p : Path) : Path := ofComponents (resolve p.isAbsolute p.components)

/-- `p` in normal form, seen from the directory `dir` if it is relative. -/
def absoluteFrom (dir p : Path) : Path :=
  if p.isAbsolute then p.normalize else (dir.join p).normalize

/-- The text by which a path is compared. -/
def comparable (p : Path) : String := p.normalize.display

/-- Whether two paths have the same normal form, as far as their text shows. -/
def same (p q : Path) : Bool := p.comparable == q.comparable

/-- Whether `p` is `root` or lies below it, as far as their text shows. -/
def isWithin (p root : Path) : Bool :=
  (ofString root.comparable).components.isPrefixOf (ofString p.comparable).components

end Path

end ToolRelay
