import LayerNet.Training.Definitions

/-!
# Scripts for the runtime

The runtime is given a script and reads a payload from its standard input.  One script trains a
model and saves it, the other prints the graph of a saved model as a document on one line.

Main definitions:

- `Script.training`: the script that trains a model, with source texts of layer classes in it.
- `Script.graphDump`: the script that prints a graph.
-/

namespace LayerNet.Script

/-- Lines as a text, each with a line feed behind it. -/
def ofLines (lines : List String) : String :=
  String.join (lines.map fun line => line ++ "\n")

theorem toList_ofLines_cons (line : String) (lines : List String) :
    (ofLines (line :: lines)).toList = line.toList ++ '\n' :: (ofLines lines).toList := by
  simp [ofLines, String.join_cons]

/-! ## Training -/

/-- The lines before the source texts of layer classes. -/
def linesBeforeDefinitions : List String :=
  ["import json",
   "import logging",
   "import os",
   "import sys",
   "",
   "import tensorflow as tf",
   "",
   "os.environ[\"TF_CPP_MIN_LOG_LEVEL\"] = \"2\"",
   "logging.getLogger(\"tensorflow\").setLevel(logging.ERROR)",
   "logging.disable(logging.WARNING)",
   "",
   "custom_objects = \x7b\x7d",
   ""]

/-- The lines after the source texts of layer classes. -/
def linesAfterDefinitions : List String :=
  ["",
   "config = json.load(sys.stdin)",
   "batch_size = config[\"batch_size\"]",
   "",
   "model = tf.keras.models.model_from_json(config[\"model_config\"], custom_objects=custom_objects)",
   "",
   "if config[\"model_definition_save_dir\"]:",
   "    summary = []",
   "    model.summary(print_fn=lambda line: summary.append(line))",
   "    with open(os.path.join(config[\"model_definition_save_dir\"], \"model-summary.txt\"), \"w\") as f:",
   "        f.write(\"\\n\".join(summary))",
   "",
   "learn_inputs = []",
   "predict_input_signature = []",
   "zero_inputs = []",
   "",
   "model_config = json.loads(config[\"model_config\"])",
   "",
   "for model_layer in model_config[\"config\"][\"layers\"]:",
   "    if model_layer[\"class_name\"] != \"InputLayer\":",
   "        continue",
   "    dims = model_layer[\"config\"][\"batch_input_shape\"][1:]",
   "    dtype = model_layer[\"config\"][\"dtype\"]",
   "    zero_inputs.append(tf.zeros(shape=[batch_size] + dims, dtype=dtype))",
   "    learn_inputs.append(tf.TensorSpec(shape=[batch_size] + dims, dtype=dtype))",
   "    predict_input_signature.append(tf.TensorSpec(shape=[None] + dims, dtype=dtype))",
   "",
   "y_dtype = model.output.dtype",
   "y_shape = model.output.shape",
   "",
   "if config[\"loss\"] in (\"binary_crossentropy\", \"sparse_categorical_crossentropy\"):",
   "    y_dtype = tf.int32",
   "    y_shape = [batch_size, 1]",
   "",
   "learn_input_signature = [",
   "    tf.TensorSpec(shape=y_shape, dtype=y_dtype),",
   "    tf.TensorSpec(shape=batch_size, dtype=tf.float32),",
   "] + learn_inputs",
   "",
   "evaluate_input_signature = learn_input_signature",
   "",
   "",
   "def weighted(loss_func):",
   "    def loss(y_true, y_pred, class_weights):",
   "        return tf.reduce_mean(tf.multiply(loss_func(y_true, y_pred), class_weights))",
   "",
   "    return loss",
   "",
   "",
   "class TrainableModel(tf.Module):",
   "    def __init__(self):",
   "        super().__init__()",
   "",
   "        self._model = model",
   "        self._global_step = tf.Variable(0, dtype=tf.int32, trainable=False)",
   "",
   "        opt = tf.keras.optimizers.get(config[\"optimizer\"][\"class_name\"])",
   "        self._optimizer = opt.from_config(config[\"optimizer\"][\"config\"])",
   "",
   "        if config[\"loss\"] == \"binary_crossentropy\":",
   "            self._loss = weighted(tf.keras.losses.BinaryCrossentropy(reduction=\"none\"))",
   "        elif config[\"loss\"] == \"sparse_categorical_crossentropy\":",
   "            self._loss = weighted(tf.keras.losses.SparseCategoricalCrossentropy(reduction=\"none\"))",
   "        else:",
   "            mse = tf.keras.losses.MeanSquaredError(reduction=\"none\")",
   "            self._loss = lambda y_true, y_pred, class_weights: tf.reduce_mean(mse(y_true, y_pred))",
   "",
   "    @tf.function(input_signature=learn_input_signature)",
   "    def learn(self, y, class_weights, *inputs):",
   "        self._global_step.assign_add(1)",
   "        with tf.GradientTape() as tape:",
   "            logits = self._model(list(inputs), training=True)",
   "            loss = self._loss(y, logits, class_weights)",
   "",
   "        self._optimizer.minimize(loss, self._model.trainable_variables, tape=tape)",
   "        return [loss, logits]",
   "",
   "    @tf.function(input_signature=evaluate_input_signature)",
   "    def evaluate(self, y, class_weights, *inputs):",
   "        logits = self._model(list(inputs), training=False)",
   "        return [self._loss(y, logits, class_weights), logits]",
   "",
   "    @tf.function(input_signature=predict_input_signature)",
   "    def predict(self, *inputs):",
   "        return [self._model(list(inputs), training=False)]",
   "",
   "",
   "print(\"Initialising model\")",
   "",
   "tm = TrainableModel()",
   "",
   "y_zeros = tf.zeros(shape=[batch_size] + list(y_shape[1:]), dtype=y_dtype)",
   "class_weights_ones = tf.ones(shape=batch_size, dtype=tf.float32)",
   "",
   "print(\"Tracing learn\")",
   "tm.learn(y_zeros, class_weights_ones, *zero_inputs)",
   "",
   "print(\"Tracing evaluate\")",
   "tm.evaluate(y_zeros, class_weights_ones, *zero_inputs)",
   "",
   "print(\"Tracing predict\")",
   "tm.predict(*zero_inputs)",
   "",
   "print(\"Saving model\")",
   "",
   "tf.saved_model.save(",
   "    tm,",
   "    config[\"save_dir\"],",
   "    signatures=\x7b",
   "        \"learn\": tm.learn,",
   "        \"evaluate\": tm.evaluate,",
   "        \"predict\": tm.predict,",
   "    \x7d,",
   ")",
   "",
   "if config[\"cpu_inference\"]:",
   "    print(\"Saving cpu inference model\")",
   "    with tf.device(\"/cpu:0\"):",
   "        tf.saved_model.save(",
   "            tm,",
   "            os.path.join(config[\"save_dir\"], \"cpu\"),",
   "            signatures=\x7b\"predict\": tm.predict\x7d,",
   "        )",
   "",
   "print(\"Completed model\")"]

/-- The part of the training script before the source texts of layer classes. -/
def beforeDefinitions : String :=
  ofLines linesBeforeDefinitions

/-- The part of the training script after the source texts of layer classes. -/
def afterDefinitions : String :=
  "\n" ++ ofLines linesAfterDefinitions

/-- The training script with the given source texts of layer classes in their place. -/
def training (definitions : List String) : String :=
  beforeDefinitions ++ "\n".intercalate (collectDefinitions definitions) ++ afterDefinitions

/-! ## Graphs -/

/-- The lines of the script that prints a graph. -/
def graphDumpLines : List String :=
  ["import json",
   "import logging",
   "import os",
   "import sys",
   "",
   "import tensorflow as tf",
   "",
   "os.environ[\"TF_CPP_MIN_LOG_LEVEL\"] = \"2\"",
   "logging.getLogger(\"tensorflow\").setLevel(logging.ERROR)",
   "logging.disable(logging.WARNING)",
   "",
   "request = json.load(sys.stdin)",
   "",
   "from tensorflow.core.protobuf import saved_model_pb2",
   "",
   "saved = saved_model_pb2.SavedModel()",
   "with open(os.path.join(request[\"model_dir\"], \"saved_model.pb\"), \"rb\") as f:",
   "    saved.ParseFromString(f.read())",
   "",
   "graph_def = saved.meta_graphs[0].graph_def",
   "",
   "",
   "def dump_nodes(nodes):",
   "    return [\x7b\"name\": n.name, \"op\": n.op, \"inputs\": list(n.input)\x7d for n in nodes]",
   "",
   "",
   "functions = []",
   "for function in graph_def.library.function:",
   "    functions.append(\x7b",
   "        \"name\": function.signature.name,",
   "        \"nodes\": dump_nodes(function.node_def),",
   "    \x7d)",
   "",
   "json.dump(\x7b\"nodes\": dump_nodes(graph_def.node), \"functions\": functions\x7d, sys.stdout)"]

/-- The script that prints the graph of a saved model as a document on one line. -/
def graphDump : String :=
  ofLines graphDumpLines

end LayerNet.Script
