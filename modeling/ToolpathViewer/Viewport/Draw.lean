import ToolpathViewer.Scene.Theme

/-!
# Drawing

The calls on the graphics library that a view makes, and the form in which each is named: constants by their names, numbers as
they are.
-/

namespace ToolpathViewer

/-- The modes that are switched on and off. -/
inductive Draw.Mode where
  | depthTest
  | lineSmooth
  | blend
  | lineStipple
deriving DecidableEq, Repr

/-- What vertices are put together to. -/
inductive Draw.Shape where
  | lines
  | points
deriving DecidableEq, Repr

/-- The transformations that are built up. -/
inductive Draw.Matrix where
  | projection
  | modelview
deriving DecidableEq, Repr

/-- A call on the graphics library. -/
inductive Draw where
  | clearColor (c : Color)
  | clear
  | matrix (m : Draw.Matrix)
  | loadIdentity
  | translate (v : Vec3 Float)
  | rotate (degrees : Float) (axis : Vec3 Float)
  | perspective (degrees aspect near far : Float)
  | window (width height : Int)
  | lineWidth (w : Float)
  | pointSize (w : Float)
  | color (c : Color)
  | start (s : Draw.Shape)
  | vertex (v : Vec3 Float)
  | finish
  | enable (m : Draw.Mode)
  | disable (m : Draw.Mode)
  | stipple (factor pattern : Nat)
  | blendByAlpha

namespace Draw

/-- The name of a mode. -/
def Mode.name : Mode → String
  | .depthTest => "GL_DEPTH_TEST"
  | .lineSmooth => "GL_LINE_SMOOTH"
  | .blend => "GL_BLEND"
  | .lineStipple => "GL_LINE_STIPPLE"

/-- The name of a shape. -/
def Shape.name : Shape → String
  | .lines => "GL_LINES"
  | .points => "GL_POINTS"

/-- The name of a transformation. -/
def Matrix.name : Matrix → String
  | .projection => "GL_PROJECTION"
  | .modelview => "GL_MODELVIEW"

/-- An argument of a call. -/
inductive Arg where
  | constant (name : String)
  | int (n : Int)
  | num (x : Float)

/-- The arguments that a vector makes. -/
def vectorArgs (v : Vec3 Float) : List Arg := v.toList.map .num

/-- The name and the arguments of a call. -/
def call : Draw → String × List Arg
  | clearColor c => ("glClearColor", vectorArgs c ++ [.num 1.0])
  | clear => ("glClear", [.constant "GL_COLOR_BUFFER_BIT|GL_DEPTH_BUFFER_BIT"])
  | matrix m => ("glMatrixMode", [.constant m.name])
  | loadIdentity => ("glLoadIdentity", [])
  | translate v => ("glTranslatef", vectorArgs v)
  | rotate degrees axis => ("glRotatef", .num degrees :: vectorArgs axis)
  | perspective degrees aspect near far => ("gluPerspective", [.num degrees, .num aspect, .num near, .num far])
  | window width height => ("glViewport", [.int 0, .int 0, .int width, .int height])
  | lineWidth w => ("glLineWidth", [.num w])
  | pointSize w => ("glPointSize", [.num w])
  | color c => ("glColor3f", vectorArgs c)
  | start s => ("glBegin", [.constant s.name])
  | vertex v => ("glVertex3f", vectorArgs v)
  | finish => ("glEnd", [])
  | enable m => ("glEnable", [.constant m.name])
  | disable m => ("glDisable", [.constant m.name])
  | stipple factor pattern => ("glLineStipple", [.int factor, .int pattern])
  | blendByAlpha => ("glBlendFunc", [.constant "GL_SRC_ALPHA", .constant "GL_ONE_MINUS_SRC_ALPHA"])

end Draw

end ToolpathViewer
