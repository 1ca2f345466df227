import GaleraProxy.Unicode.Table

/-!
# Writing direction, joining and marks

The classes that decide where a label may change direction, where an invisible joiner may stand, and
which characters cannot begin a label.
-/

namespace GaleraProxy.Unicode

/-- The class of a character in bidirectional text: `L` left to right, `R` right to left, `A` Arabic
letter, `U` Arabic number, `E` European number, `S` its separator, `T` its terminator, `C` common
separator, `M` mark, `B` boundary neutral, `O` other neutral, `X` any other. -/
def directionTable : Table := .ofText
  "9B 5X eB 5X 2O 3T 5O 1S 1C 1S 2C aE 1C 6O qL 6O qL 4O 6B 1X qB 1C 1O 4T 4O 1L 2O 1B 2O 2T 2E 1O 1L
3O 1E 1L 5O nL 1O vL 1O chL 2O 7L eO 2L eO 5L 9O 1L hO 34M 4L 2O 8L 1O 5L 2O 1L 1O 32L 1O 3wL 7M
74L 1O 2L 2O 1T 1R 19M 1R 1M 1R 2M 1R 2M 1R 1M 1kR 6U 2O 1A 2T 1A 1C 1A 2O bM 1cA lM aU 1T 2U 3A
1M 2tA 7M 1U 1O 6M 2A 2M 1O 4M 2A aE nA 1M uA rM 2jA bM fA 17R 9M 2R 4O 3R 1M oR 4M 1R 9M 1R 3M 1R
5M 17R 3M 4R 1cA 2U 5A 9M 16A oM 1U wM 1jL 1M 1L 1M 4L 8M 4L 1M 3L 7M aL 2M tL 1M 1mL 1M 4L 4M 8L
1M kL 2M eL 2T 7L 1T 2L 1M 2L 2M 1lL 1M 4L 2M 4L 2M 2L 3M 3L 1M uL 2M 3L 1M bL 2M 1lL 1M 4L 5M 1L
2M 4L 1M kL 2M dL 1T 8L 6M 1L 1M 1mL 1M 2L 1M 1L 4M 8L 1M 7L 2M bL 2M uL 1M 1pL 1M cL 1M 11L 6O 1T
1O 5L 1M 3L 1M 1jL 1M 1L 3M 5L 3M 1L 4M 7L 2M bL 2M kL 7O 2L 1M 1mL 1M fL 2M kL 2M sL 2M 1lL 2M 4L
4M 8L 1M kL 2M tL 1M 20L 1M 7L 3M 1L 1M 2iL 1M 2L 7M 4L 1T 7L 8M 2qL 1M 2L 9M bL 7M 21L 2M rL 1M
1L 1M 1L 1M 4O 1fL eM 1L 5M 1L 2M 5L bM 1L 10M 9L 1M 2uL 4M 1L 6M 1L 2M 2L 2M pL 2M 4L 3M gL 4M dL
1M 2L 2M 6L 1M fL 1M jjL 3M 1cL aO 2uL 1O hrL 1X qL 2O 39L 3M tL 2M uL 2M uL 2M 1sL 2M 1L 7M 8L 1M
2L bM 7L 1T 1L 1M iL aO 6L bO 3M 1B 1M 39L 2M yL 1M 3aL 3M 4L 2M 9L 1M 6L 3M 4L 1O 3L 2O 48L yO nL
2M 2L 1M 1mL 1M 1L 7M 1L 1M 1L 1M 2L 8M 6L aM 2L 1M 1cL 1aM 2L cM kL 4M 1cL 1M 1L 5M 1L 1M 5L 1M
14L 9M cL 2M wL 4M 2L 2M 1L 3M 1kL 1M 1L 2M 3L 1M 1L 3M 1mL 8M 2L 2M 48L 3M 1L dM 1L 7M 4L 1M 6L
1M 3L 2M 5iL 1sM cdL 1O 1L 3O bL 3O dL 3O dL 3O dL 2O 1L bX 3B 1L 1R oO 7X 1C 5T fO 1C qO 1X 6B 4X
6B 1E 3L 6E 2S 3O 1L aE 2S 3O hL xT 1L eT xM fL 2O 1L 4O 1L 2O aL 1O 1L 3O 5L 6O 1L 1O 1L 1O 1L 1O
4L 1T bL 2O 4L 5O 5L 4O 2L gO 15L 3O 4L 3mO 1S 1T 82O 1xL qO 1L 41O pL bO lL 14O kE 26L ciO 1L 9fO
74L hgO 2L wO 1L 2xO 6dL 6O 4L 3M 7L 7O 3jL 1M 2oL wM 2mO yL qO 1L 2hO cL 5yO qL cO 4L 1X 4O 3L pO
9L 4M 2L 1O 5L 2O 5L 3O 2hL 2M 2O 3L 1O 2iL 1O 5gL 10O 1lL 2O 1dL gO sL 3O 1eL fO cL 4O 4nL 4O 2rL
2O vL 1O 534L 1sO h3kL 1jO 92L 3O 2nL 4M 1O aM 2O uL 2M 28L 2M eL yO 2uL 1O 3dL 1M 3L 1M 4L 1M pL
2M 1L 4O 1M bL 2T 1mL 4O 24L 2M qL iM dL 1M 12L 8M pL bM 1aL 3M 1cL 1M 2L 4M 2L 2M 13L 1M 1vL 6M
2L 2M 2L 2M cL 1M 8L 1M 1bL 1M 1fL 1M 1L 3M 2L 2M 5L 2M 1L 1M 16L 2M 8L 1M 37L 2O 3dL 1M 2L 1M 4L
1M fn3L 1R 1M aR 1S 12R dqA iO 3jA 1O wB dA 3O gM aO 6L gM wO 1C 1O 1C 1L 1O 1C 9O 1T 2O 2S 3O 1L
1O 2T 1O 4L 3zA 1B 1L 2O 3T 5O 1S 1C 1S 2C aE 1C 6O qL 6O qL bO 3eL 2T 3O 2T 1L 7O 1L 9B 5O 2B 75L
1O 1qL 25O 3L dO 3L 1O 2kL 1M 6aL 1M rE 3eL 5M w5L 7zR 1O 69R 3M 1R 2M 5R 4M 14R 3M 4R 1M 4lR 2M
2aR 7O cgR 10A 4M 8A aU 6A 15R 5M 6qR vU 18R 2M jR 1mA 6M 1cR mA bM vA iR 4M 3eR 1L 1M 1iL fM bL
kO aL 1M 2L 2M aL 3M 1dL 4M 2L 2M 7L 1M 1pL 3M 10L 5M 1L 8M 1qL 1M cL 2M 1gL 9M aL 4M 2L 1M 2nL 3M
2L 1M 1L 2M 6L 1M 2L 1M 4dL 1M 3L 8M lL 2M 1lL 2M 3L 1M 11L 7M 3L 5M 1yL 6M dL 1M 1L 1M 1L 1M eL
2M 2dL 8M 2L 3M 1L 1M nL 1M 2cL 6M 1L 1M 4L 2M 1L 2M 6mL 4M 6L 2M 1L 2M rL 2M 2dL 8M 2L 1M 1L 2M
vL dO 1qL 1M 1L 1M 2L 6M 1L 1M 2tL 3M 2L 4M 1L 5M 77L 9M 1L 2M 74L 2M 1L 1M 4L 1M 40L 4M 2L 2M 4L
1M wL 6M 2L 2M 14L 6M 2L 4M 8L 1M 9L 6M 2L 3M 1aL dM 1L 2M 5iL 1M 1L 3M 1L 1M 5lL 7M 1L 6M 2cL mM
2L 7M 1L 2M 1L 2M 3eL 6M 3L 1M 1L 2M 1L 7M 1L 1M 20L 2M 3L 1M 1L 1M 9nL 2M bL 2M 1gL 5M 5L 1M 1L
1M nL 1M 3eL 8O 4T hO 40eL 1M 6L fM 8ugL cM 3L 3M 1xcL 5M 1nL 7M t4L 1M 1rL 4M 27L 1O 1L 1M f5kL
2M 1L 4B 3mkL 1aM 2L nM f4L 3M 9L 8B 8M 2L 7M uL 4M 1nL 2O lL 1uO 3M 1O 56L 2fO p0L 1O 1lL 1O 1lL
1O 1lL 1O 1lL 1O aL 1eE e8L 1jM 4L 1eM 8L 1M eL 1M mL 5M 1L fM 11sL 7M 1L hM 2L 7M 1L 2M 1L 5M 2sL
1M 4gL 7M afL 1M 1pL 4M fL 1T doL 4M 72L 2M 6rL 1M 2L 1M 7L 2M 5L 1M 7eL 5sR 7M 31R 7M mdR 28A 1sR
28A 4wR 6oA 2O eA 74R 18O 4L 2sO cL fO 2L fO 1L fO 1L 11O aL bE 5O vL 1O 1mL 6O 1pL 1O 4yL 6O 4aL
rcO 4L hO 3L dO 3L 3bO 4L 2nO 6L cO 4L 1O fL cO 4L 1kO 8L aO 6L 14O 8L uO 2L 2O 26L 9gO cL eO 2L
dO 3L 9O 7L 1aO 1L 7O 8L eO 4L 9O 7L 9O 7L 43O 1L 1jO 11L aE skL 2B 1ekeL 2B 1ekeL 2B 1ekeL 2B
1ekeL 2B 1ekeL 2B 1ekeL 2B 1ekeL 2B 1ekeL 2B 1ekeL 2B 1ekeL 2B 1ekeL 2B 1ekeL 76B 6oM 2s0B 1bemL
2B 1ekeL 2B 1ekeL 2B"

/-- The joining type of a character: `D` dual, `L` left, `R` right, `C` causing, `T` transparent,
`U` none. -/
def joiningTable : Table := .ofText
  "4tU 1T giU 34T 7nU 7T 7bU 19T 1U 1T 1U 2T 1U 2T 1U 1T 20U bT 1U 1T 3U 1D 1U 4R 1D 1R 1D 1R 5D 4R
dD 1C 7D 1R 2D lT eU 2D 1T 3R 1U 3R gD iR 12D 1R 2D 9R 1D 1R 1D 1R 2D 2R 1U 1R 7T 2U 6T 2U 2T 1U
4T 2R aU 3D 2U 1D fU 1T 1R 1T 3D 5R 4D 1R 9D 1R 1D 1R 1D 1R 2D 1R rT 2U 1R bD 3R fD 2R 4D 1R 1D 2R
3D 2R 6D 12U bT pU xD 9T 6U 1C 2U 1T oU 4T 1U 9T 1U 3T 1U 5T iU 1R 5D 2R 1D 1R aD 1R 1D 3R 3T 4U
1D 1U 4D 1U 1R 1D 2R 5U jR 3C 1D 2U 5D 1R 1D 7U 9T aD 3R 1U 1R 2D 2R 6D 1R fD 1U oT 1U wT 1jU 1T
1U 1T 4U 8T 4U 1T 3U 7T aU 2T tU 1T 1mU 1T 4U 4T 8U 1T kU 2T qU 1T 2U 2T 1lU 1T 4U 2T 4U 2T 2U 3T
3U 1T uU 2T 3U 1T bU 2T 1lU 1T 4U 5T 1U 2T 4U 1T kU 2T mU 6T 1U 1T 1mU 1T 2U 1T 1U 4T 8U 1T 7U 2T
bU 2T uU 1T 1pU 1T cU 1T 1eU 1T 3U 1T 1jU 1T 1U 3T 5U 3T 1U 4T 7U 2T bU 2T tU 1T 1mU 1T 2U 1T 6U
1T 5U 2T kU 2T sU 2T 1lU 2T 4U 4T 8U 1T kU 2T tU 1T 20U 1T 7U 3T 1U 1T 2iU 1T 2U 7T cU 8T 2qU 1T
2U 9T bU 7T 21U 2T rU 1T 1U 1T 1U 1T 1jU eT 1U 5T 1U 2T 5U bT 1U 10T 9U 1T 2uU 4T 1U 6T 1U 2T 2U
2T pU 2T 4U 3T gU 4T dU 1T 2U 2T 6U 1T fU 1T jjU 3T qaU 3T tU 2T uU 2T uU 2T 1sU 2T 1U 7T 8U 1T 2U
bT 9U 1T 15U 1D 2U 1C 3T 1U 1T gU 2hD cU 2T yD 1T 1D 39U 3T 4U 2T 9U 1T 6U 3T 63U 2T 2U 1T 1mU 1T
1U 7T 1U 1T 1U 1T 2U 8T 6U aT 2U 1T 1cU 1aT 2U cT kU 4T 1cU 1T 1U 5T 1U 1T 5U 1T 14U 9T cU 2T wU
4T 2U 2T 1U 3T 1kU 1T 1U 2T 3U 1T 1U 3T 1mU 8T 2U 2T 48U 3T 1U dT 1U 7T 4U 1T 6U 1T 3U 2T 5iU 1sT
ejU 1T 1U 1C 2T qU 5T 1dU 5T 5U 6T 2oU xT 2daU 3T 3xU 1T 2oU wT feU 4T 2zU 2T n9wU 4T 1U aT wU 2T
28U 2T 7kU 1T 3U 1T 4U 1T pU 2T 5U 1T jU 1eD 1L 29U 2T qU iT dU 1T 12U 8T pU bT 1aU 3T 1cU 1T 2U
4T 2U 2T 13U 1T 1vU 6T 2U 2T 2U 2T cU 1T 8U 1T 1bU 1T 1fU 1T 1U 3T 2U 2T 5U 2T 1U 1T 16U 2T 8U 1T
6mU 1T 2U 1T 4U 1T fn4U 1T khU gT gU gT 5rU 1T 6xU 3T e9U 1T 6aU 1T 45U 5T 1aeU 3T 1U 2T 5U 4T 14U
3T 4U 1T 3kU 5D 1R 1U 1R 1U 2R 2U 1L 5R 4D 1L 5D 1R 3D 1R 2U 1R 2T 4U 4D 1R 40U 1D 1R 1D 3R 3D 1R
2D 1R 1D 2R 1D 1R nU 4R 2D 9dU 1L xD 1R 1D 4T 1tU 5T 8tU 2T lU 1R 2D 1U 2D 1eU 6T 1cU 3D 1R hD 1U
bT 3D 1R rU 4D 2R cD 4T 16U 1D 1U 2D 3R 1U 1D 2R 2D 1R 2D 1U 1D 2R 1D 4U 1R 1D 1L 1hU 1T 1iU fT
15U 1T 2U 2T aU 3T 1dU 4T 2U 2T 7U 1T 1pU 3T 10U 5T 1U 8T 1qU 1T cU 2T 1gU 9T aU 4T 2U 1T 2nU 3T
2U 1T 1U 2T 6U 1T 2U 1T 4dU 1T 3U 8T lU 2T 1lU 2T 3U 1T 11U 7T 3U 5T 1yU 6T dU 1T 1U 1T 1U 1T eU
2T 2dU 8T 2U 3T 1U 1T nU 1T 2cU 6T 1U 1T 4U 2T 1U 2T 6mU 4T 6U 2T 1U 2T rU 2T 2dU 8T 2U 1T 1U 2T
2yU 1T 1U 1T 2U 6T 1U 1T 2tU 1T 1U 1T 2U 4T 1U 5T 77U 9T 1U 2T 74U 2T 1U 1T 4U 1T 40U 4T 2U 2T 4U
1T wU aT 14U 6T 2U 4T 8U 1T 9U 6T 2U 3T 1aU dT 1U 2T 5iU 1T 1U 3T 1U 1T 5lU 7T 1U 6T 1U 1T 2aU mT
2U 7T 1U 2T 1U 2T 3eU 6T 3U 1T 1U 2T 1U 7T 1U 1T 20U 2T 3U 1T 1U 1T 9nU 2T bU 2T 1gU 5T 5U 1T 1U
1T nU 1T 445U hT 6U fT 8ugU cT 3U 3T 1xcU 5T 1nU 7T t4U 1T 1rU 4T 29U 1T f5kU 2T 1U 4T 3mkU 1aT 2U
nT f4U 3T 9U gT 2U 7T uU 4T 44U 3T 1izU 1jT 4U 1eT 8U 1T eU 1T mU 5T 1U fT 11sU 7T 1U hT 2U 7T 1U
2T 1U 5T 2sU 1T 4gU 7T afU 1T 1pU 4T e4U 4T 72U 2T 6rU 1T 2U 1T 7U 2T 5U 1T d6U 7T 15U 1wD 8T
gzatU 1T uU 2oT 3kU 6oT 47bkU"

/-- Letter `Y` for the combining marks. -/
def markTable : Table := .ofText
  "lcN 34Y 7nN 7Y 7bN 19Y 1N 1Y 1N 2Y 1N 2Y 1N 1Y 20N bY 1cN lY gN 1Y 2tN 7Y 2N 6Y 2N 2Y 1N 4Y zN 1Y
uN rY 2jN bY 1mN 9Y 9N 1Y oN 4Y 1N 9Y 1N 3Y 1N 5Y 17N 3Y 1nN 9Y 16N oY 1N xY 1iN 3Y 1N iY 1N 7Y aN
2Y tN 3Y 1kN 1Y 1N 7Y 2N 2Y 2N 3Y 9N 1Y aN 2Y qN 1Y 2N 3Y 1kN 1Y 1N 5Y 4N 2Y 2N 3Y 3N 1Y uN 2Y 3N
1Y bN 3Y 1kN 1Y 1N 8Y 1N 3Y 1N 3Y kN 2Y mN 6Y 1N 3Y 1kN 1Y 1N 7Y 2N 2Y 2N 3Y 7N 3Y aN 2Y uN 1Y 1nN
5Y 3N 3Y 1N 4Y 9N 1Y 14N 5Y 1jN 1Y 1N 7Y 1N 3Y 1N 4Y 7N 2Y bN 2Y tN 3Y 1kN 1Y 1N 7Y 1N 3Y 1N 4Y 7N
2Y bN 2Y fN 1Y cN 4Y 1jN 2Y 1N 7Y 1N 3Y 1N 4Y 9N 1Y aN 2Y tN 3Y 1yN 1Y 4N 6Y 1N 1Y 1N 8Y iN 2Y 1pN
1Y 2N 7Y cN 8Y 2qN 1Y 2N 9Y bN 7Y 21N 2Y rN 1Y 1N 1Y 1N 1Y 4N 2Y 1dN kY 1N 2Y 5N bY 1N 10Y 9N 1Y
2sN kY nN 4Y 4N 3Y 1N 3Y 2N 7Y 3N 4Y dN cY 1N 1Y aN 4Y jjN 3Y qaN 4Y sN 3Y tN 2Y uN 2Y 1sN wY 9N
1Y 19N 3Y 1N 1Y 39N 2Y yN 1Y 3aN cY 4N cY 63N 5Y 1lN aY 1N tY 2N 1Y 1cN 1aY 2N cY kN 5Y 1bN hY 12N
9Y cN 3Y uN dY 1kN eY 1cN kY 48N 3Y 1N lY 4N 1Y 6N 1Y 2N 3Y 5iN 1sY k0N xY 2daN 3Y 3xN 1Y 2oN wY
feN 6Y 2xN 2Y n9wN 4Y 1N aY wN 2Y 28N 2Y 7kN 1Y 3N 1Y 4N 1Y nN 5Y 4N 1Y 2bN 2Y 1eN iY qN iY dN 1Y
12N 8Y pN dY 18N 4Y 1bN eY 10N 1Y 1vN eY cN 1Y 8N 2Y 19N 3Y 1eN 1Y 1N 3Y 2N 2Y 5N 2Y 1N 1Y 15N 5Y
5N 2Y 6kN 8Y 1N 2Y fn4N 1Y khN gY gN gY r1N 1Y 6aN 1Y 45N 5Y 1aeN 3Y 1N 2Y 5N 4Y 14N 3Y 4N 1Y 4lN
2Y fxN 4Y 1tN 5Y 8tN 2Y 25N 6Y 1yN bY 1dN 4Y 3eN 3Y 1hN fY 15N 1Y 2N 2Y aN 4Y 19N bY 7N 1Y 1pN 3Y
10N eY gN 2Y 18N 1Y cN 3Y 1cN eY 8N 4Y 1N 2Y 2kN cY 6N 1Y 2N 1Y 4dN cY lN 4Y 1jN 2Y 1N 7Y 2N 2Y 2N
3Y 9N 1Y aN 2Y 2N 7Y 3N 5Y 1yN 6Y dN 1Y 1N 1Y 1N 1Y eN 2Y 2aN iY nN 1Y 29N kY 6jN 7Y 2N 9Y rN 2Y
2aN hY 2yN dY 2tN fY 74N fY 6tN 6Y 1N 2Y 2N 4Y 1N 1Y 1N 2Y 3xN 7Y 2N 7Y 3N 1Y sN aY 14N 7Y 1N 4Y
8N 1Y 9N bY 1aN gY 5iN 1Y 1N 3Y 1N 1Y 5kN 8Y 1N 8Y 2aN mY 1N eY 3eN 6Y 3N 1Y 1N 2Y 1N 7Y 1N 1Y 1uN
5Y 1N 2Y 1N 5Y 9nN 4Y 9N 2Y 1N 1Y 1cN 7Y 3N 5Y nN 1Y 44lN 1Y 6N fY 8ugN cY 3N 3Y 1xcN 5Y 1nN 7Y
t4N 1Y 1N 1jY 7N 4Y 29N 1Y bN 2Y f57N 2Y 3mpN 1aY 2N nY f2N 5Y 3N 6Y 8N 8Y 2N 7Y uN 4Y 44N 3Y 1izN
1jY 4N 1eY 8N 1Y eN 1Y mN 5Y 1N fY 11sN 7Y 1N hY 2N 7Y 1N 2Y 1N 5Y 2sN 1Y 4gN 7Y afN 1Y 1pN 4Y e4N
4Y 72N 2Y 6rN 1Y 2N 1Y 7N 2Y 5N 1Y d6N 7Y 31N 7Y gzhxN 6oY 47bkN"

/-- The class of a character in bidirectional text. -/
def direction (c : Char) : Char := directionTable.letter c

/-- The joining type of a character. -/
def joiningType (c : Char) : Char := joiningTable.letter c

/-- Whether a character is a combining mark. -/
def isMark (c : Char) : Bool :=
  if c.toNat < 0x300 then false else markTable.letter c == 'Y'

end GaleraProxy.Unicode
